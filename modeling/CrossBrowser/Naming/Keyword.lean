/-! Reserved words of C#, and escaping them. -/
namespace CrossBrowser.Naming

/-- The words that C# reserves everywhere. Words reserved only in some contexts can be used as
names and are not among them. -/
def keywords : List String :=
  ["abstract", "as", "base", "bool", "break", "byte", "case", "catch", "char", "checked", "class",
    "const", "continue", "decimal", "default", "delegate", "do", "double", "else", "enum", "event",
    "explicit", "extern", "false", "finally", "fixed", "float", "for", "foreach", "goto", "if",
    "implicit", "in", "int", "interface", "internal", "is", "lock", "long", "namespace", "new",
    "null", "object", "operator", "out", "override", "params", "private", "protected", "public",
    "readonly", "ref", "return", "sbyte", "sealed", "short", "sizeof", "stackalloc", "static",
    "string", "struct", "switch", "this", "throw", "true", "try", "typeof", "uint", "ulong",
    "unchecked", "unsafe", "ushort", "using", "virtual", "void", "volatile", "while"]

/-- A name that can be used where it stands: a reserved word gets an `@` in front. -/
def escape (name : String) : String := if name ∈ keywords then "@" ++ name else name

theorem escape_not_keyword (name : String) : escape name ∉ keywords := by
  unfold escape
  split
  · intro h
    have starts : ∀ k ∈ keywords, k.toList.head? ≠ some '@' := by decide
    exact starts _ h (by simp)
  · assumption

end CrossBrowser.Naming
