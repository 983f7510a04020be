import CrossBrowser.Document.Json.Reader
import CrossBrowser.Document.Json.Writer

/-! Strings that are written and read again.

Each character is written as one piece that stands for it, an escape or the character itself
(`readUnits_escapeChar`). So a text that is written as a string is read as this text
(`readString_stringBody`). -/
namespace CrossBrowser.Document.Json

/-- Whether a piece of a string stands for a character, whatever pieces follow. -/
def Unit16.StandsFor (u : Unit16) (c : Char) : Prop :=
  ∀ units, textOf (u :: units) = (textOf units).map (c :: ·)

theorem char_standsFor (c : Char) : (Unit16.char c).StandsFor c := fun _ => rfl

/-- Sixteen bits below both halves of a pair stand for the character of that number. -/
theorem code_standsFor (c : Char) (h : c.toNat < 0xD800) : (Unit16.code c.toNat).StandsFor c := by
  have hhigh : isHighHalf c.toNat = false := by
    rw [isHighHalf, decide_eq_false (by omega), Bool.false_and]
  have hlow : isLowHalf c.toNat = false := by
    rw [isLowHalf, decide_eq_false (by omega), Bool.false_and]
  intro units
  cases units with
  | nil => simp [textOf, hhigh, hlow]
  | cons unit rest => cases unit <;> simp [textOf, hhigh, hlow]

theorem hexNumber?_control (n : Nat) (h : n < 0x20) :
    Text.hexNumber? ['0', '0', Text.hexDigit (n / 16), Text.hexDigit n] = some n := by
  have hzero : Text.hexValue? '0' = some 0 := rfl
  have hdigits : (n / 16 % 16) * 16 + n % 16 = n := by omega
  simp [Text.hexNumber?, hzero, Text.hexValue?_hexDigit, hdigits]

/-- A character that is not escaped is read as itself. -/
theorem readUnits_plain (c : Char) (cs : List Char) (hquote : c ≠ '"') (hslash : c ≠ '\\')
    (hcontrol : ¬c.toNat < 0x20) :
    readUnits (c :: cs) = (readUnits cs).map fun (units, rest) => (.char c :: units, rest) := by
  rw [readUnits.eq_def]
  split
  · next h => cases h
  · next h => exact absurd (List.cons.inj h).1 hquote
  · next h => exact absurd (List.cons.inj h).1 hslash
  · next h => exact absurd (List.cons.inj h).1 hslash
  · next h =>
    obtain ⟨rfl, rfl⟩ := List.cons.inj h
    rw [if_neg (not_or.mpr ⟨hslash, hcontrol⟩)]
    cases readUnits cs <;> rfl

/-- A short escape is read as the character that it stands for. -/
theorem readUnits_short (e d : Char) (cs : List Char) (he : e ≠ 'u') (hd : shortEscape? e = some d) :
    readUnits ('\\' :: e :: cs) =
      (readUnits cs).map fun (units, rest) => (.char d :: units, rest) := by
  rw [readUnits.eq_def]
  split
  · next h => cases h
  · next h => exact absurd (List.cons.inj h).1 (by decide)
  · next h => exact absurd (List.cons.inj (List.cons.inj h).2).1 he
  · next h =>
    obtain ⟨rfl, rfl⟩ := List.cons.inj (List.cons.inj h).2
    rw [hd]
    cases readUnits cs <;> rfl
  · next hplain h =>
    obtain ⟨rfl, rfl⟩ := List.cons.inj h
    exact absurd rfl (hplain e cs rfl)

/-- A number to base sixteen is read as sixteen bits. -/
theorem readUnits_code (a b c d : Char) (n : Nat) (cs : List Char)
    (hn : Text.hexNumber? [a, b, c, d] = some n) :
    readUnits ('\\' :: 'u' :: a :: b :: c :: d :: cs) =
      (readUnits cs).map fun (units, rest) => (.code n :: units, rest) := by
  rw [readUnits, hn]
  cases readUnits cs <;> rfl

/-- What a character is written as is read as one piece that stands for it. -/
theorem readUnits_escapeChar (c : Char) (cs : List Char) :
    ∃ u : Unit16, u.StandsFor c ∧
      readUnits (escapeChar c ++ cs) =
        (readUnits cs).map fun (units, rest) => (u :: units, rest) := by
  have hshort : ∀ e, e ≠ 'u' → shortEscape? e = some c → ∃ u : Unit16, u.StandsFor c ∧
      readUnits (['\\', e] ++ cs) = (readUnits cs).map fun (units, rest) => (u :: units, rest) :=
    fun e he hc => ⟨.char c, char_standsFor c, readUnits_short e c cs he hc⟩
  unfold escapeChar
  split
  · next h =>
    refine hshort c ?_ (if_pos (h.imp_right .inl))
    rcases h with rfl | rfl <;> decide
  split
  · next h => exact hshort 'n' (by decide) (h ▸ rfl)
  split
  · next h => exact hshort 'r' (by decide) (h ▸ rfl)
  split
  · next h => exact hshort 't' (by decide) (h ▸ rfl)
  split
  · next h => exact hshort 'b' (by decide) (h ▸ rfl)
  split
  · next h => exact hshort 'f' (by decide) (h ▸ rfl)
  split
  · next h =>
    refine ⟨.code c.toNat, code_standsFor c (by omega), ?_⟩
    exact readUnits_code _ _ _ _ _ cs (hexNumber?_control c.toNat h)
  · next h₁ _ _ _ _ _ h =>
    obtain ⟨hquote, hslash⟩ := not_or.mp h₁
    exact ⟨.char c, char_standsFor c, readUnits_plain c cs hquote hslash h⟩

/-- The pieces of written characters stand for these characters. -/
theorem readUnits_flatMap_escapeChar (cs rest : List Char) :
    ∃ units, readUnits (cs.flatMap escapeChar ++ '"' :: rest) = some (units, rest) ∧
      textOf units = some cs := by
  induction cs with
  | nil => exact ⟨[], rfl, rfl⟩
  | cons c cs ih =>
    obtain ⟨units, hread, htext⟩ := ih
    obtain ⟨u, hu, hfirst⟩ := readUnits_escapeChar c (cs.flatMap escapeChar ++ '"' :: rest)
    refine ⟨u :: units, ?_, ?_⟩
    · rw [List.flatMap_cons, List.append_assoc, hfirst, hread, Option.map_some]
    · rw [hu units, htext, Option.map_some]

/-- What stands after the opening quote of a string. -/
def stringBody (s : String) : List Char := s.toList.flatMap escapeChar ++ ['"']

theorem writeText_toList (s : String) : (writeText s).toList = '"' :: stringBody s := by
  rw [writeText, String.toList_ofList]
  rfl

/-- A text that is written as a string is read again. -/
theorem readString_stringBody (s : String) (rest : List Char) :
    readString (stringBody s ++ rest) = some (some s, rest) := by
  obtain ⟨units, hread, htext⟩ := readUnits_flatMap_escapeChar s.toList rest
  rw [stringBody, List.append_assoc, List.singleton_append, readString, hread]
  show some ((textOf units).map String.ofList, rest) = some (some s, rest)
  rw [htext, Option.map_some, String.ofList_toList]

end CrossBrowser.Document.Json
