import CrossBrowser.CSharp.Literal
import CrossBrowser.Proofs.Text.Telling

/-! Literals can be told from what is written after them.

No character of a string is written as a bare quote, and each can be told from its escape
(`readEscaped_escapeChar`), so the closing quote is the first bare one. An array ends at its brace,
which begins neither a string nor a separator. -/
namespace CrossBrowser.CSharp
open Text

/-! ### Strings -/

/-- The character that a string literal goes on with, and what follows it. None at the closing
quote. -/
def readEscaped : List Char → Option (Char × List Char)
  | [] => none
  | c :: rest =>
    if c = '"' then none
    else if c = '\\' then
      match rest with
      | [] => none
      | d :: rest => (unescapeChar? d).map (·, rest)
    else some (c, rest)

theorem readEscaped_escapeChar (c : Char) (rest : List Char) :
    readEscaped (escapeChar c ++ rest) = some (c, rest) := by
  unfold escapeChar
  split_ifs with hquote hbackslash
  case neg => simp [readEscaped, hquote, hbackslash]
  all_goals subst_vars; rfl

theorem tells_escapeChar : Tells escapeChar id :=
  .of_read readEscaped readEscaped_escapeChar

/-- A bare quote is not how a string goes on. -/
theorem foreign_quote (rest : List Char) : Foreign escapeChar ('"' :: rest) :=
  .of_read readEscaped (fun c t => by rw [readEscaped_escapeChar]; exact Option.some_ne_none _) rfl

theorem stringLiteral_toList (value : String) :
    (stringLiteral value).toList = '"' :: (value.toList.flatMap escapeChar ++ ['"']) := by
  rw [stringLiteral, String.toList_ofList, List.cons_append]

theorem tells_stringLiteral : Tells (fun value => (stringLiteral value).toList) id := by
  intro v w r s h
  simp only [stringLiteral_toList, List.cons_append, List.append_assoc, List.nil_append] at h
  obtain ⟨hvalue, hrest⟩ := tells_escapeChar.flatMap (foreign_quote r) (foreign_quote s)
    (List.cons.inj h).2
  rw [List.map_id, List.map_id] at hvalue
  exact ⟨String.toList_inj.mp hvalue, (List.cons.inj hrest).2⟩

/-! ### Arrays and arguments -/

theorem arrayLiteral_toList (values : List String) :
    (arrayLiteral values).toList = "new string[] \x7b".toList ++
      (", ".toList.intercalate (values.map fun v => (stringLiteral v).toList) ++ ['\x7d']) := by
  show ("new string[] \x7b" ++ ", ".intercalate (values.map stringLiteral) ++ "\x7d").toList = _
  rw [String.toList_append, String.toList_append, String.toList_intercalate, List.map_map,
    List.append_assoc]
  rfl

theorem foreign_stringLiteral {c : Char} (h : c ≠ '"') (rest : List Char) :
    Foreign (fun value => (stringLiteral value).toList) (c :: rest) := by
  intro v t heq
  simp only [stringLiteral_toList, List.cons_append] at heq
  exact h (List.cons.inj heq).1

theorem foreign_separated {α : Type} (text : α → List Char) {c : Char} (h : c ≠ ',')
    (rest : List Char) : Foreign (fun a => ", ".toList ++ text a) (c :: rest) :=
  fun _ _ heq => h (List.cons.inj heq).1

theorem tells_arrayLiteral : Tells (fun values => (arrayLiteral values).toList) id := by
  intro v w r s h
  simp only [arrayLiteral_toList, List.append_assoc, List.append_cancel_left_eq] at h
  obtain ⟨hvalues, hrest⟩ := tells_stringLiteral.intercalate ", ".toList
    (foreign_stringLiteral (by decide) r) (foreign_stringLiteral (by decide) s)
    (foreign_separated _ (by decide) r) (foreign_separated _ (by decide) s) h
  rw [List.map_id, List.map_id] at hvalues
  exact ⟨hvalues, (List.cons.inj hrest).2⟩

/-- The first two characters tell which kind of argument it is. -/
theorem tells_literal : Tells (fun l => (literal l).toList) id := by
  intro l l' r s h
  cases l <;> cases l'
  case null.null => exact ⟨rfl, List.append_cancel_left h⟩
  case text.text v w =>
    obtain ⟨hvalue, hrest⟩ := tells_stringLiteral h
    exact ⟨congrArg Literal.text hvalue, hrest⟩
  case texts.texts vs ws =>
    obtain ⟨hvalues, hrest⟩ := tells_arrayLiteral h
    exact ⟨congrArg Literal.texts hvalues, hrest⟩
  all_goals simp [literal, stringLiteral_toList, arrayLiteral_toList] at h

end CrossBrowser.CSharp
