import MutationTesting.Files.Path

/-!
The languages of source files, by the extensions of their names, and the words that each keeps for
itself.
-/

namespace MutationTesting

inductive Language where
  | c
  | cpp
  deriving DecidableEq, Inhabited

namespace Language

def name : Language → String
  | .c => "c"
  | .cpp => "cpp"

def cppExtensions : List String := ["cc", "cpp", "cxx", "c++", "hpp", "hh", "hxx"]

/-- C++ for its extensions in either case, C for everything else. -/
def ofPath (p : Path) : Language :=
  match p.extension with
  | some extension => if cppExtensions.contains (extension.map Char.toLower) then .cpp else .c
  | none => .c

/-- Names of types that are always types. -/
def basicTypes : List String :=
  ["bool", "char", "int", "float", "double", "void", "size_t", "ssize_t", "ptrdiff_t", "intptr_t",
    "uintptr_t", "charptr_t", "nullptr_t", "max_align_t", "int8_t", "int16_t", "int32_t", "int64_t",
    "uint8_t", "uint16_t", "uint32_t", "uint64_t", "char8_t", "char16_t", "char32_t", "char64_t"]

def sizeWords : List String := ["signed", "unsigned", "long", "short"]

def storageWords : Language → List String
  | .c =>
    ["extern", "static", "auto", "register", "inline", "__inline", "__inline__", "__forceinline",
      "thread_local", "__thread"]
  | .cpp =>
    ["extern", "static", "register", "inline", "__inline", "__inline__", "__forceinline",
      "thread_local", "__thread", "virtual"]

def qualifierWords : Language → List String
  | .c =>
    ["const", "constexpr", "volatile", "restrict", "__restrict__", "__extension__", "_Atomic",
      "_Noreturn", "noreturn", "_Nonnull"]
  | .cpp =>
    ["const", "constexpr", "volatile", "restrict", "__restrict__", "__extension__", "_Atomic",
      "_Noreturn", "noreturn", "_Nonnull", "mutable", "constinit", "consteval"]

def callConventions : List String :=
  ["__cdecl", "__clrcall", "__stdcall", "__fastcall", "__thiscall", "__vectorcall"]

def alignmentWords : List String := ["__alignof__", "__alignof", "_alignof", "alignof", "_Alignof"]

def assemblyWords : List String := ["asm", "__asm__", "__asm"]

def attributeWords : List String := ["__attribute__", "__attribute"]

/-- Words that stand for values. -/
def constantWords : List String := ["true", "false", "TRUE", "FALSE", "NULL", "nullptr"]

/-- Words of the statements and declarations of both languages. -/
def commonWords : List String :=
  ["if", "else", "switch", "case", "default", "while", "do", "for", "return", "break", "continue",
    "goto", "typedef", "struct", "union", "enum", "sizeof", "offsetof", "_Generic", "__declspec",
    "__based", "__try", "__except", "__finally", "__leave", "alignas", "_Alignas"]

def cppWords : List String :=
  ["auto", "class", "namespace", "using", "template", "typename", "explicit", "friend", "public",
    "private", "protected", "operator", "new", "delete", "this", "try", "catch", "throw",
    "static_assert", "decltype", "noexcept", "co_await", "co_return", "co_yield", "concept",
    "requires", "and", "or", "not", "xor", "bitand", "bitor", "compl", "not_eq", "and_eq", "or_eq",
    "xor_eq"]

/-- Words that are no names. -/
def reserved (language : Language) (word : String) : Bool :=
  commonWords.contains word || basicTypes.contains word || sizeWords.contains word
    || constantWords.contains word || language.storageWords.contains word
    || (word != "noreturn" && language.qualifierWords.contains word)
    || alignmentWords.contains word || assemblyWords.contains word || attributeWords.contains word
    || callConventions.contains word || (language = .cpp && cppWords.contains word)

end Language

end MutationTesting
