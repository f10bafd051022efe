import MutationTesting.Ledger.Store
import MutationTesting.Proofs.Program.Notation

/-!
What patch hashes are digests of: the text of the opcode that a point replaces and the text of its
replacement, with nothing in between. A reader knows where the first one ends, so the bytes tell both
opcodes.
-/

namespace MutationTesting

namespace Json

/-- A written value and the text after it can be told apart, unless a number could go on there. -/
theorem Exact.append_inj {v w : Json} (hv : Exact v) (hw : Exact w) {text rest : List Char}
    (htext : EndsNumber text) (hrest : EndsNumber rest) (h : v.chars ++ text = w.chars ++ rest) :
    v = w ∧ text = rest := by
  have hfirst := hv.readsBack (2 * v.chars.length + 2 * w.chars.length) text htext (by omega)
  have hsecond := hw.readsBack (2 * v.chars.length + 2 * w.chars.length) rest hrest (by omega)
  rw [h, hsecond, Prod.mk.injEq] at hfirst
  exact ⟨hfirst.1.symm, hfirst.2.symm⟩

end Json

namespace Opcode

theorem json_injective {o p : Opcode} (h : o.json = p.json) : o = p := by
  have hread := shape_json 0 o
  rw [h, shape_json] at hread
  exact (Except.ok.inj hread).symm

/-- An opcode is written in braces, so it ends a number before it. -/
theorem endsNumber_chars (o : Opcode) : Json.EndsNumber o.json.chars :=
  Json.endsNumber_cons (by decide)

/-- Two opcodes written one after the other. -/
theorem chars_append_chars_inj {o o' p p' : Opcode}
    (h : o.json.chars ++ o'.json.chars = p.json.chars ++ p'.json.chars) : o = p ∧ o' = p' := by
  obtain ⟨hfirst, hrest⟩ :=
    o.json_exact.append_inj p.json_exact o'.endsNumber_chars p'.endsNumber_chars h
  have hend : Json.EndsNumber [] := fun c hc => by cases hc
  rw [← List.append_nil o'.json.chars, ← List.append_nil p'.json.chars] at hrest
  obtain ⟨hsecond, -⟩ := o'.json_exact.append_inj p'.json_exact hend hend hrest
  exact ⟨json_injective hfirst, json_injective hsecond⟩

end Opcode

namespace Ledger

/-- The bytes that a patch hash is the digest of. -/
def patchBytes (point : MutationPoint) : ByteArray :=
  (point.initial.json.compact ++ point.mutated.json.compact).toUTF8

/-- **Patch hashes are digests of edits.** The bytes behind the hashes of two points are equal if and
only if the points replace the same opcode by the same opcode. -/
theorem patchBytes_eq_iff (p q : MutationPoint) :
    patchHash p = Sha256.digest (patchBytes p) ∧ patchHash q = Sha256.digest (patchBytes q) ∧
      (patchBytes p = patchBytes q ↔ p.initial = q.initial ∧ p.mutated = q.mutated) := by
  refine ⟨rfl, rfl, ?_⟩
  constructor
  · intro h
    have htext := congrArg String.fromUTF8? h
    rw [patchBytes, patchBytes, Json.fromUTF8?_toUTF8, Json.fromUTF8?_toUTF8,
      Option.some.injEq] at htext
    have hchars := congrArg String.toList htext
    rw [String.toList_append, String.toList_append] at hchars
    simp only [Json.compact, String.toList_ofList] at hchars
    exact Opcode.chars_append_chars_inj hchars
  · rintro ⟨hinitial, hmutated⟩
    rw [patchBytes, patchBytes, hinitial, hmutated]

end Ledger

end MutationTesting
