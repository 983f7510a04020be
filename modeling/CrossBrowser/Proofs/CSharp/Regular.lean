import CrossBrowser.Proofs.CSharp.Literal

/-! When a string literal is well formed.

Between its quotes a literal is a sequence of simple escapes and of characters that stand for
themselves (`Spells`). Which characters may stand for themselves is a matter of the language: none
that ends a line (`Regular`). What is written for a string always spells the string, and escapes the
quote, the backslash and two of the characters that end a line, but not the other three
(`wideLineEnds`). So a literal is well formed exactly if the string has none of those
(`stringLiteral_regular`). -/
namespace CrossBrowser.CSharp

/-! ### The grammar -/

/-- Simple escapes, and characters of some kind that stand for themselves, together with what they
spell. -/
inductive Spells (plain : Char → Prop) : List Char → List Char → Prop where
  | nil : Spells plain [] []
  | char {c body value} : plain c → Spells plain body value →
      Spells plain (c :: body) (c :: value)
  | escape {sign c body value} : unescapeChar? sign = some c → Spells plain body value →
      Spells plain ('\\' :: sign :: body) (c :: value)

/-- The characters that may stand for themselves in a string literal. -/
def Regular (c : Char) : Prop := c ≠ '"' ∧ c ≠ '\\' ∧ endsLine c = false

/-- Neither a quote nor a backslash, nor a line feed or a carriage return. -/
def Ordinary (c : Char) : Prop := c ≠ '"' ∧ c ≠ '\\' ∧ c ≠ '\n' ∧ c ≠ '\r'

/-- The characters that end a line and are written as they are. -/
def wideLineEnds : List Char := ['\u0085', '\u2028', '\u2029']

variable {plain : Char → Prop} {body value : List Char}

theorem Spells.append {body' value' : List Char} (h : Spells plain body value)
    (h' : Spells plain body' value') : Spells plain (body ++ body') (value ++ value') := by
  induction h with
  | nil => exact h'
  | char hc _ ih => exact .char hc ih
  | escape hc _ ih => exact .escape hc ih

theorem Spells.mono {plain' : Char → Prop} (hplain : ∀ c, plain c → plain' c)
    (h : Spells plain body value) : Spells plain' body value := by
  induction h with
  | nil => exact .nil
  | char hc _ ih => exact .char (hplain _ hc) ih
  | escape hc _ ih => exact .escape hc ih

/-- A body spells one string only. -/
theorem Spells.unique (hplain : ¬plain '\\') {value' : List Char} (h : Spells plain body value)
    (h' : Spells plain body value') : value = value' := by
  induction h generalizing value' with
  | nil =>
    cases h'
    rfl
  | char hc _ ih =>
    cases h' with
    | char _ rest => rw [ih rest]
    | escape => exact absurd hc hplain
  | escape hc _ ih =>
    cases h' with
    | char hc' => exact absurd hc' hplain
    | escape hc' rest =>
      rw [ih rest]
      exact congrArg (· :: _) (Option.some.inj (hc.symm.trans hc'))

/-- A character that is no part of an escape stands for itself. -/
theorem Spells.plain_of_mem {c : Char} (hc : c ≠ '\\' ∧ unescapeChar? c = none)
    (h : Spells plain body value) (hmem : c ∈ body) : plain c := by
  induction h with
  | nil => cases hmem
  | char hd _ ih =>
    rcases List.mem_cons.mp hmem with rfl | hmem
    · exact hd
    · exact ih hmem
  | escape hd _ ih =>
    rcases List.mem_cons.mp hmem with rfl | hmem
    · exact absurd rfl hc.1
    · rcases List.mem_cons.mp hmem with rfl | hmem
      · rw [hc.2] at hd
        cases hd
      · exact ih hmem

/-! ### Reading by the grammar -/

theorem readStringBody_plain {c : Char} (h : Regular c) (text : List Char) :
    readStringBody (c :: text) = (readStringBody text).map fun r => (c :: r.1, r.2) := by
  obtain ⟨hquote, hbackslash, hline⟩ := h
  have hregular : ¬(c = '\\' ∨ endsLine c = true) := by simp [hbackslash, hline]
  rw [readStringBody, if_neg hregular]
  · exact hquote
  · exact fun _ _ hc _ => hbackslash hc

theorem readStringBody_escape {sign c : Char} (h : unescapeChar? sign = some c)
    (text : List Char) :
    readStringBody ('\\' :: sign :: text) = (readStringBody text).map fun r => (c :: r.1, r.2) := by
  rw [readStringBody, h]
  cases readStringBody text <;> rfl

theorem readStringBody_of_spells (h : Spells Regular body value) (rest : List Char) :
    readStringBody (body ++ '"' :: rest) = some (value, rest) := by
  induction h with
  | nil => rfl
  | char hc _ ih =>
    rw [List.cons_append, readStringBody_plain hc, ih]
    rfl
  | escape hc _ ih =>
    rw [List.cons_append, List.cons_append, readStringBody_escape hc, ih]
    rfl

theorem spells_of_readStringBody {text rest : List Char}
    (h : readStringBody text = some (value, rest)) :
    ∃ body, text = body ++ '"' :: rest ∧ Spells Regular body value := by
  fun_induction readStringBody text generalizing value rest with
  | case1 => cases h
  | case2 rest' =>
    obtain ⟨rfl, rfl⟩ := Prod.mk.inj (Option.some.inj h)
    exact ⟨[], rfl, .nil⟩
  | case3 sign text ih =>
    obtain ⟨c, hc, h⟩ := Option.bind_eq_some_iff.mp h
    obtain ⟨⟨value', rest'⟩, hread, h⟩ := Option.bind_eq_some_iff.mp h
    obtain ⟨rfl, rfl⟩ := Prod.mk.inj (Option.some.inj h)
    obtain ⟨body, rfl, hbody⟩ := ih hread
    exact ⟨'\\' :: sign :: body, rfl, .escape hc hbody⟩
  | case4 => cases h
  | case5 c text hquote _ hregular ih =>
    obtain ⟨⟨value', rest'⟩, hread, h⟩ := Option.map_eq_some_iff.mp h
    obtain ⟨rfl, rfl⟩ := Prod.mk.inj h
    obtain ⟨body, rfl, hbody⟩ := ih hread
    obtain ⟨hbackslash, hline⟩ := not_or.mp hregular
    exact ⟨c :: body, rfl, .char ⟨hquote, hbackslash, Bool.eq_false_iff.mpr hline⟩ hbody⟩

/-- A text is read as a string literal exactly if it is one by the grammar. -/
theorem readStringLiteral_eq_some_iff (text value : String) :
    readStringLiteral text = some value ↔
      ∃ body, text.toList = '"' :: (body ++ ['"']) ∧ Spells Regular body value.toList := by
  constructor
  · intro h
    unfold readStringLiteral at h
    split at h
    case h_2 => cases h
    case h_1 rest htext =>
      split at h
      case h_2 => cases h
      case h_1 value' hread =>
        obtain ⟨body, rfl, hbody⟩ := spells_of_readStringBody hread
        obtain rfl := Option.some.inj h
        exact ⟨body, htext, String.toList_ofList ▸ hbody⟩
  · rintro ⟨body, htext, hbody⟩
    simp only [readStringLiteral, htext, readStringBody_of_spells hbody, String.ofList_toList]

/-! ### What is written for a string -/

/-- A character stands for itself or is escaped. -/
theorem spells_escapeChar (c : Char) (h : escapeChar c = [c] → plain c) :
    Spells plain (escapeChar c) [c] := by
  by_cases hc : escapeChar c = [c]
  · rw [hc]
    exact .char (h hc) .nil
  · unfold escapeChar at hc ⊢
    split_ifs at hc ⊢
    -- A character for which there is no escape would stand for itself.
    case neg => exact absurd rfl hc
    all_goals
      subst_vars
      refine .escape ?_ .nil
      rfl

theorem spells_flatMap_escapeChar (value : List Char)
    (h : ∀ c ∈ value, escapeChar c = [c] → plain c) :
    Spells plain (value.flatMap escapeChar) value := by
  induction value with
  | nil => exact .nil
  | cons c value ih =>
    have hfirst := spells_escapeChar c (h c List.mem_cons_self)
    exact hfirst.append (ih fun d hd => h d (List.mem_cons_of_mem c hd))

theorem ordinary_of_escapeChar {c : Char} (h : escapeChar c = [c]) : Ordinary c := by
  refine ⟨?_, ?_, ?_, ?_⟩ <;> rintro rfl <;> revert h <;> decide

/-- An ordinary character may stand for itself, unless it is one of the others that end a line. -/
theorem regular_iff (c : Char) : Regular c ↔ Ordinary c ∧ c ∉ wideLineEnds := by
  simp only [Regular, Ordinary, endsLine, wideLineEnds, Bool.or_eq_false_iff, beq_eq_false_iff_ne,
    List.mem_cons, List.not_mem_nil, or_false, not_or, and_assoc]

/-- The characters that end a line and are written as they are can be no part of an escape. -/
theorem escapeChar_of_wideLineEnds :
    ∀ c ∈ wideLineEnds, escapeChar c = [c] ∧ c ≠ '\\' ∧ unescapeChar? c = none := by
  simp [wideLineEnds, escapeChar, unescapeChar?]

/-- What is written for a string spells it. -/
theorem spells_ordinary (value : List Char) :
    Spells Ordinary (value.flatMap escapeChar) value :=
  spells_flatMap_escapeChar value fun _ _ => ordinary_of_escapeChar

theorem spells_regular_iff (value v : List Char) :
    Spells Regular (value.flatMap escapeChar) v ↔
      v = value ∧ ∀ c ∈ value, c ∉ wideLineEnds := by
  constructor
  · intro h
    have hordinary := h.mono fun c hc => ((regular_iff c).mp hc).1
    refine ⟨hordinary.unique (fun hc => hc.2.1 rfl) (spells_ordinary value), ?_⟩
    intro c hc hwide
    obtain ⟨hescape, hpart⟩ := escapeChar_of_wideLineEnds c hwide
    have hmem : c ∈ value.flatMap escapeChar :=
      List.mem_flatMap.mpr ⟨c, hc, hescape ▸ List.mem_singleton_self c⟩
    exact ((regular_iff c).mp (h.plain_of_mem hpart hmem)).2 hwide
  · rintro ⟨rfl, hwide⟩
    refine spells_flatMap_escapeChar v fun c hc hescape => ?_
    exact (regular_iff c).mpr ⟨ordinary_of_escapeChar hescape, hwide c hc⟩

/-- **What is written for a string.** Between its quotes there are only simple escapes and characters
other than a quote, a backslash, a line feed and a carriage return, and the escapes decoded they are
the string. The language takes this for a literal, and then for one of the string, exactly if the
string has no next line, line separator or paragraph separator: these three are not escaped, and
end the line. -/
theorem stringLiteral_regular (value : String) :
    ∃ body, (stringLiteral value).toList = '"' :: (body ++ ['"']) ∧
      Spells (fun c => c ≠ '"' ∧ c ≠ '\\' ∧ c ≠ '\n' ∧ c ≠ '\r') body value.toList ∧
      (∀ v, Spells Regular body v ↔
        v = value.toList ∧ ∀ c ∈ value.toList, c ∉ ['\u0085', '\u2028', '\u2029']) ∧
      ∀ v, readStringLiteral (stringLiteral value) = some v ↔
        v = value ∧ ∀ c ∈ value.toList, c ∉ ['\u0085', '\u2028', '\u2029'] := by
  have hregular := spells_regular_iff value.toList
  refine ⟨value.toList.flatMap escapeChar, stringLiteral_toList value,
    spells_ordinary value.toList, hregular, fun v => ?_⟩
  rw [readStringLiteral_eq_some_iff, stringLiteral_toList]
  constructor
  · rintro ⟨body, hbody, h⟩
    obtain rfl := List.append_cancel_right (List.cons.inj hbody).2
    obtain ⟨hv, hwide⟩ := (hregular v.toList).mp h
    exact ⟨String.toList_inj.mp hv, hwide⟩
  · rintro ⟨rfl, hwide⟩
    exact ⟨_, rfl, (hregular v.toList).mpr ⟨rfl, hwide⟩⟩

example : readStringLiteral (stringLiteral "a\u2028b") = none := by decide

end CrossBrowser.CSharp
