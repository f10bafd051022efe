import MutationTesting.Proofs.Json.Record
import MutationTesting.Proofs.Json.RoundTrip
import MutationTesting.Program.Notation

/-!
Objects with members taken out. A field that may be left out is read if its member is there, and
stays empty if it is not; so a record of such fields is read from any of its members, in any order.
-/

namespace MutationTesting

namespace Json

/-- An object with another value of one member. -/
def setMember (v : Json) (name : String) (value : Json) : Json :=
  match v with
  | .object members => .object (members.map fun m => if m.1 = name then (name, value) else m)
  | v => v

/-- The second document is the first one without the members of these names, in some order. -/
inductive Without (removed : List String) : Json → Json → Prop where
  | object {members found : List (String × Json)}
      (order : (members.filter fun m => m.1 ∉ removed).Perm found) :
      Without removed (.object members) (.object found)

theorem Without.exact {removed : List String} {v w : Json} (h : Without removed v w)
    (hv : Exact v) : Exact w := by
  cases h with
  | object order =>
      cases hv with
      | object all => exact .object fun m hm => all m (List.mem_filter.mp (order.mem_iff.mpr hm)).1

/-- What stays of something under a name. -/
def kept {α : Type} (removed : List String) (name : String) (value : α) : Option α :=
  if name ∈ removed then none else some value

section

variable {α : Type} (removed : List String) (name : String) (value : α)

theorem getD_kept (default : α) :
    (kept removed name value).getD default = if name ∈ removed then default else value := by
  rw [kept]
  split
  · rfl
  · rfl

theorem map_kept {β : Type} (f : α → β) :
    (kept removed name value).map f = kept removed name (f value) := by
  rw [kept, kept]
  split
  · rfl
  · rfl

theorem mapM_kept {v : Json} {shape : Shape α} {a : α} (h : shape v = .ok a) :
    (kept removed name v).mapM shape = .ok (kept removed name a) := by
  rw [kept, kept]
  split
  · rfl
  · rw [Option.mapM_some, h]
    rfl

theorem filter_members_cons (v : Json) (rest : List (String × Json)) :
    (((name, v) :: rest).filter fun m => m.1 ∉ removed) =
      presentMember name id (kept removed name v) ++ rest.filter fun m => m.1 ∉ removed := by
  rw [kept, List.filter_cons]
  split
  next h => rw [if_neg (by simpa using h)]; rfl
  next h => rw [if_pos (by simpa using h)]; rfl

end

end Json

namespace Shape

variable {σ α : Type} {fields : List (RecordField σ)}

/-- A member that may be left out, at its field. -/
theorem members_optional {key : String} {get : σ → Option α} {set : σ → α → σ} {shape : Shape α}
    (hfield : fields.find? (fun f => f.name == key) = some (optionalField key get set shape))
    {s t : σ} (hempty : get s = none) {w : Option Json} {x : Option α} (hw : w.mapM shape = .ok x)
    (ht : x.elim s (set s) = t) (rest : List (String × Json)) :
    members fields s (presentMember key id w ++ rest) = members fields t rest := by
  subst ht
  rcases mapM_option_ok hw with ⟨rfl, rfl⟩ | ⟨v, a, rfl, rfl, hv⟩
  · rfl
  · rw [presentMember, List.singleton_append, members, hfield]
    simp only [optionalField, hempty, id, hv, Except.map, bind, Except.bind, Option.isSome_none,
      Bool.false_eq_true, if_false, Option.elim_some]

theorem fromMembers_of_members {empty r : σ} {found : List (String × Json)}
    (h : members fields empty found = .ok r) (hmissing : missing? fields r = none) :
    fromMembers fields empty found = .ok r := by
  simp only [fromMembers, h, hmissing, bind, Except.bind]

/-- A record is read from the members that stay, in any order. -/
theorem record_of_without {name : String} {empty r : σ} {removed : List String}
    {written : List (String × Json)} {v : Json}
    (hfields : fields.Pairwise RecordField.Independent) (hkeys : (written.map Prod.fst).Nodup)
    (hkept : fromMembers fields empty (written.filter fun m => m.1 ∉ removed) = .ok r)
    (h : Json.Without removed (.object written) v) : record name fields empty v = .ok r := by
  cases h with
  | object order =>
      have hstay : ((written.filter fun m => m.1 ∉ removed).map Prod.fst).Nodup :=
        (List.filter_sublist.map Prod.fst).nodup hkeys
      rw [record, fromMembers_of_perm hfields order hstay hkept]

end Shape

end MutationTesting
