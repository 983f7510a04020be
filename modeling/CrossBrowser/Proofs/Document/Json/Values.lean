import CrossBrowser.Proofs.Document.Json.Strings
import CrossBrowser.Proofs.Text.Telling
import Mathlib.Data.List.TakeWhile

/-! Values that are written and read again.

Items and members are written between brackets with commas between them, and read one after the
other up to the bracket: both readers take one part, and then a comma and more parts, or the bracket
(`ReadsParts`). So all that is to be known of a part is that it is read again by itself, and a value
without numbers, whether on one line or spread over several, is read again (`parse_write`). -/
namespace CrossBrowser.Document.Json

/-! ### Blanks -/

theorem skipSpace_append (blanks cs : List Char) (h : ∀ c ∈ blanks, isSpace c = true) :
    skipSpace (blanks ++ cs) = skipSpace cs :=
  List.dropWhile_append_of_pos h

/-- A text that begins with something other than a blank. -/
def Visible (cs : List Char) : Prop := ∃ c rest, cs = c :: rest ∧ isSpace c = false

theorem Visible.append {cs : List Char} (h : Visible cs) (rest : List Char) :
    Visible (cs ++ rest) := by
  obtain ⟨c, cs, rfl, hc⟩ := h
  exact ⟨c, cs ++ rest, rfl, hc⟩

theorem Visible.skipSpace_eq {cs : List Char} (h : Visible cs) : skipSpace cs = cs := by
  obtain ⟨c, rest, rfl, hc⟩ := h
  exact List.dropWhile_cons_of_neg (Bool.eq_false_iff.mp hc)

/-- Spacing with nothing but blanks in it. -/
structure Spacing.Blank (s : Spacing) : Prop where
  before : ∀ level, ∀ c ∈ (s.before level).toList, isSpace c = true
  last : ∀ level, ∀ c ∈ (s.last level).toList, isSpace c = true
  colon : ∃ blanks, s.colon.toList = ':' :: blanks ∧ ∀ c ∈ blanks, isSpace c = true

theorem compact_blank : Spacing.compact.Blank where
  before _ _ h := by cases h
  last _ _ h := by cases h
  colon := ⟨[], rfl, fun _ h => by cases h⟩

theorem isSpace_newLine (level : Nat) : ∀ c ∈ (newLine level).toList, isSpace c = true := by
  have hindentation : ∀ c ∈ (String.join (List.replicate level "  ")).toList, isSpace c = true := by
    induction level with
    | zero => exact fun c h => by cases h
    | succ level ih =>
      rw [List.replicate_succ, String.join_cons, String.toList_append]
      intro c h
      rcases List.mem_append.mp h with h | h
      · have hblank : "  ".toList.all isSpace = true := rfl
        exact List.all_eq_true.mp hblank c h
      · exact ih c h
  intro c h
  rw [newLine, String.toList_append] at h
  rcases List.mem_append.mp h with h | h
  · obtain rfl := List.mem_singleton.mp h
    rfl
  · exact hindentation c h

theorem pretty_blank : Spacing.pretty.Blank where
  before level := isSpace_newLine (level + 1)
  last := isSpace_newLine
  colon := ⟨[' '], rfl, List.all_eq_true.mp rfl⟩

/-! ### Parts between brackets -/

section
variable {α : Type}

/-- A reader of parts up to a closing bracket. `one fuel cs x rest` says that the part `x` is read
from `cs` with `rest` after it. -/
structure ReadsParts (close : Char) (one : Nat → List Char → α → List Char → Prop)
    (many : Nat → List Char → Option (List α × List Char)) : Prop where
  last : ∀ {fuel cs x rest rest'}, one fuel cs x rest → skipSpace rest = close :: rest' →
    many (fuel + 1) cs = some ([x], rest')
  more : ∀ {fuel cs x rest rest' xs rest''}, one fuel cs x rest → skipSpace rest = ',' :: rest' →
    many fuel (skipSpace rest') = some (xs, rest'') → many (fuel + 1) cs = some (x :: xs, rest'')

/-- Parts that are each read from their texts are read from their texts with commas and blanks
between them. -/
theorem ReadsParts.read {close : Char} {one : Nat → List Char → α → List Char → Prop}
    {many : Nat → List Char → Option (List α × List Char)} (h : ReadsParts close one many)
    (hclose : isSpace close = false) (text : α → List Char) (before last : List Char)
    (hbefore : ∀ c ∈ before, isSpace c = true) (hlast : ∀ c ∈ last, isSpace c = true)
    (x : α) (xs : List α)
    (hone : ∀ y ∈ x :: xs, Visible (text y) ∧
      ∀ fuel rest, (text y).length ≤ fuel → one fuel (text y ++ rest) y rest)
    (fuel : Nat) (rest : List Char)
    (hfuel : (text x ++ xs.flatMap fun y => ',' :: (before ++ text y)).length + 1 ≤ fuel) :
    many fuel ((text x ++ xs.flatMap fun y => ',' :: (before ++ text y)) ++
      (last ++ close :: rest)) = some (x :: xs, rest) := by
  induction xs generalizing x fuel with
  | nil =>
    obtain ⟨fuel, rfl⟩ : ∃ k, fuel = k + 1 := ⟨fuel - 1, by omega⟩
    rw [List.flatMap_nil, List.append_nil] at hfuel ⊢
    refine h.last ((hone x List.mem_cons_self).2 fuel _ (by omega)) ?_
    rw [skipSpace_append _ _ hlast, Visible.skipSpace_eq ⟨close, rest, rfl, hclose⟩]
  | cons y ys ih =>
    obtain ⟨fuel, rfl⟩ : ∃ k, fuel = k + 1 := ⟨fuel - 1, by omega⟩
    have htail := fun z hz => hone z (List.mem_cons_of_mem x hz)
    have hvisible := (htail y List.mem_cons_self).1
    rw [List.flatMap_cons] at hfuel ⊢
    simp only [List.length_append, List.length_cons] at hfuel
    have hys := ih y htail fuel (by simp only [List.length_append]; omega)
    have hcomma : ∀ tail, skipSpace ((',' :: (before ++ text y)) ++ tail) =
        ',' :: (before ++ (text y ++ tail)) := by
      intro tail
      rw [List.cons_append, List.append_assoc]
      exact Visible.skipSpace_eq ⟨',', _, rfl, rfl⟩
    rw [List.append_assoc, List.append_assoc]
    refine h.more ((hone x List.mem_cons_self).2 fuel _ (by omega)) (hcomma _) ?_
    rw [skipSpace_append _ _ hbefore, (hvisible.append _).skipSpace_eq, ← List.append_assoc]
    exact hys

end

theorem readsParts_items : ReadsParts ']' (fun fuel cs x rest => readValue fuel cs = some (x, rest))
    readItems where
  last h hskip := by
    simp only [readItems, h, Option.bind_eq_bind, Option.bind_some, hskip]
    rfl
  more h hskip hmore := by
    simp only [readItems, h, Option.bind_eq_bind, Option.bind_some, hskip, hmore]
    rfl

/-- Whether a member is read, with `rest` after it. -/
def ReadsMember (fuel : Nat) (cs : List Char) (member : Option String × Json) (rest : List Char) :
    Prop :=
  ∃ inner afterName afterColon, cs = '"' :: inner ∧ readString inner = some (member.1, afterName) ∧
    skipSpace afterName = ':' :: afterColon ∧
    readValue fuel (skipSpace afterColon) = some (member.2, rest)

theorem readsParts_members : ReadsParts '\x7d' ReadsMember readMembers where
  last h hskip := by
    obtain ⟨inner, afterName, afterColon, rfl, hname, hcolon, hvalue⟩ := h
    simp only [readMembers, hname, Option.bind_eq_bind, Option.bind_some, hcolon, hvalue, hskip]
    rfl
  more h hskip hmore := by
    obtain ⟨inner, afterName, afterColon, rfl, hname, hcolon, hvalue⟩ := h
    simp only [readMembers, hname, Option.bind_eq_bind, Option.bind_some, hcolon, hvalue, hskip,
      hmore]
    rfl

/-! ### Values -/

/-- A value without numbers, all strings of which are texts. -/
inductive Plain : Json → Prop where
  | null : Plain .null
  | bool (value : Bool) : Plain (.bool value)
  | text (s : String) : Plain (.text s)
  | array (items : List Json) (h : ∀ item ∈ items, Plain item) : Plain (.array items)
  | record (members : List (String × Json)) (h : ∀ member ∈ members, Plain member.2) :
    Plain (.record members)

/-- Whether a value, as it is written with some spacing, is read again, whatever follows it. -/
structure Rereads (s : Spacing) (j : Json) : Prop where
  visible : ∀ level, Visible (write s level j).toList
  no_close : ∀ level, (write s level j).toList.head? ≠ some ']'
  read : ∀ level fuel rest, (write s level j).toList.length ≤ fuel →
    readValue fuel ((write s level j).toList ++ rest) = some (j, rest)

/-- A value that is written as some characters after its first one. -/
theorem Rereads.of_cons {s : Spacing} {j : Json} (first : Char)
    (hfirst : isSpace first = false) (hclose : first ≠ ']')
    (h : ∀ level, ∃ cs, (write s level j).toList = first :: cs ∧
      ∀ fuel rest, cs.length ≤ fuel → readValue (fuel + 1) (first :: (cs ++ rest)) = some (j, rest)) :
    Rereads s j where
  visible level := by
    obtain ⟨cs, hcs, -⟩ := h level
    exact ⟨first, cs, hcs, hfirst⟩
  no_close level := by
    obtain ⟨cs, hcs, -⟩ := h level
    rw [hcs]
    exact fun he => hclose (Option.some.inj he)
  read level fuel rest hfuel := by
    obtain ⟨cs, hcs, hread⟩ := h level
    rw [hcs] at hfuel ⊢
    obtain ⟨fuel, rfl⟩ : ∃ k, fuel = k + 1 := ⟨fuel - 1, by simp only [List.length_cons] at hfuel; omega⟩
    exact hread fuel rest (Nat.le_of_succ_le_succ hfuel)

variable {s : Spacing}

theorem rereads_null : Rereads s .null :=
  .of_cons 'n' rfl (by decide) fun _ => ⟨"ull".toList, by rw [write]; rfl, fun _ _ _ => rfl⟩

theorem rereads_bool (value : Bool) : Rereads s (.bool value) := by
  cases value with
  | true =>
    exact .of_cons 't' rfl (by decide) fun _ => ⟨"rue".toList, by rw [write]; rfl, fun _ _ _ => rfl⟩
  | false =>
    exact .of_cons 'f' rfl (by decide) fun _ => ⟨"alse".toList, by rw [write]; rfl, fun _ _ _ => rfl⟩

theorem rereads_text (text : String) : Rereads s (.text text) := by
  refine .of_cons '"' rfl (by decide) fun level => ⟨stringBody text, ?_, fun fuel rest _ => ?_⟩
  · rw [Json.text, write]
    exact writeText_toList text
  · rw [readValue, readString_stringBody]
    rfl

/-- Parts between brackets, from the first part on. -/
theorem toList_bracketed (level : Nat) (opening closing part : String) (parts : List String) :
    (bracketed s level opening closing (part :: parts)).toList =
      opening.toList ++ ((s.before level).toList ++
        ((part.toList ++ parts.flatMap fun p => ',' :: ((s.before level).toList ++ p.toList)) ++
          ((s.last level).toList ++ closing.toList))) := by
  have hcomma : ",".toList = [','] := rfl
  rw [bracketed, if_neg (List.cons_ne_nil part parts), List.map_cons]
  simp only [String.toList_append, String.toList_intercalate, hcomma, List.map_cons,
    Text.intercalate_cons, List.map_map, List.flatMap_map, Function.comp_def, List.append_assoc,
    List.singleton_append]

theorem writeItems_eq (level : Nat) (items : List Json) :
    writeItems s level items = items.map (write s level) := by
  induction items with
  | nil => rw [writeItems, List.map_nil]
  | cons item rest ih => rw [writeItems, ih, List.map_cons]

/-- A member as it is written. -/
def writeMember (s : Spacing) (level : Nat) (member : Option String × Json) : String :=
  writeString member.1 ++ s.colon ++ write s level member.2

theorem writeMembers_eq (level : Nat) (members : List (Option String × Json)) :
    writeMembers s level members = members.map (writeMember s level) := by
  induction members with
  | nil => rw [writeMembers, List.map_nil]
  | cons member rest ih => rw [writeMembers, ih, List.map_cons, writeMember]

/-! ### Arrays and objects -/

theorem readValue_array {fuel : Nat} {cs rest : List Char} {items : List Json}
    (hhead : (skipSpace cs).head? ≠ some ']')
    (h : readItems fuel (skipSpace cs) = some (items, rest)) :
    readValue (fuel + 1) ('[' :: cs) = some (.array items, rest) := by
  rw [readValue]
  split
  · next hskip => exact absurd (congrArg List.head? hskip) hhead
  · rw [h]
    rfl

theorem readValue_object {fuel : Nat} {cs rest : List Char} {members : List (Option String × Json)}
    (hhead : (skipSpace cs).head? ≠ some '\x7d')
    (h : readMembers fuel (skipSpace cs) = some (members, rest)) :
    readValue (fuel + 1) ('\x7b' :: cs) = some (.object members, rest) := by
  rw [readValue]
  split
  · next hskip => exact absurd (congrArg List.head? hskip) hhead
  · rw [h]
    rfl

theorem bracketed_nil (level : Nat) (opening closing : String) :
    bracketed s level opening closing [] = opening ++ closing := if_pos rfl

/-- Parts between brackets are read up to the closing bracket, if the blanks in front are skipped. -/
theorem ReadsParts.read_bracketed {α : Type} {close : Char}
    {one : Nat → List Char → α → List Char → Prop}
    {many : Nat → List Char → Option (List α × List Char)} (h : ReadsParts close one many)
    (hclose : isSpace close = false) (hs : s.Blank) (level : Nat) (text : α → String) (x : α)
    (xs : List α)
    (hone : ∀ y ∈ x :: xs, Visible (text y).toList ∧
      ∀ fuel rest, (text y).toList.length ≤ fuel → one fuel ((text y).toList ++ rest) y rest) :
    ∃ inner, (∀ opening,
        (bracketed s level opening (String.singleton close) ((x :: xs).map text)).toList =
          opening.toList ++ inner) ∧
      ∀ fuel rest, inner.length ≤ fuel →
        (skipSpace (inner ++ rest)).head? = (text x).toList.head? ∧
          many fuel (skipSpace (inner ++ rest)) = some (x :: xs, rest) := by
  let before := (s.before level).toList
  let last := (s.last level).toList
  let parts := (text x).toList ++ xs.flatMap fun y => ',' :: (before ++ (text y).toList)
  refine ⟨before ++ (parts ++ (last ++ [close])), fun opening => ?_, fun fuel rest hfuel => ?_⟩
  · rw [List.map_cons, toList_bracketed, List.flatMap_map, String.toList_singleton]
  · have hskip : skipSpace ((before ++ (parts ++ (last ++ [close]))) ++ rest) =
        parts ++ (last ++ close :: rest) := by
      have hvisible : Visible (parts ++ (last ++ close :: rest)) :=
        ((hone x List.mem_cons_self).1.append _).append _
      rw [List.append_assoc, skipSpace_append _ _ (hs.before level), List.append_assoc parts,
        List.append_assoc last, List.singleton_append]
      exact hvisible.skipSpace_eq
    obtain ⟨c, cs, hx, -⟩ := (hone x List.mem_cons_self).1
    rw [hskip]
    refine ⟨?_, ?_⟩
    · show ((text x).toList ++ _ ++ _).head? = _
      rw [hx]
      rfl
    · refine h.read hclose (fun y => (text y).toList) before last (hs.before level) (hs.last level)
        x xs hone fuel rest ?_
      simp only [List.length_append, List.length_singleton] at hfuel
      show parts.length + 1 ≤ fuel
      omega

theorem rereads_array (hs : s.Blank) (items : List Json) (h : ∀ item ∈ items, Rereads s item) :
    Rereads s (.array items) := by
  refine .of_cons '[' rfl (by decide) fun level => ?_
  rw [write, writeItems_eq]
  cases items with
  | nil => exact ⟨[']'], by rw [List.map_nil, bracketed_nil]; rfl, fun _ _ _ => rfl⟩
  | cons x xs =>
    obtain ⟨inner, htext, hread⟩ := readsParts_items.read_bracketed rfl hs level
      (write s (level + 1)) x xs
      fun y hy => ⟨(h y hy).visible (level + 1), (h y hy).read (level + 1)⟩
    refine ⟨inner, htext "[", fun fuel rest hfuel => ?_⟩
    obtain ⟨hhead, hitems⟩ := hread fuel rest hfuel
    exact readValue_array (hhead ▸ (h x List.mem_cons_self).no_close (level + 1)) hitems

/-- A member is read again if its value is. -/
theorem readsMember (hs : s.Blank) (level : Nat) {member : Option String × Json} {name : String}
    (hname : member.1 = some name) (h : Rereads s member.2) (fuel : Nat) (rest : List Char)
    (hfuel : (writeMember s level member).toList.length ≤ fuel) :
    ReadsMember fuel ((writeMember s level member).toList ++ rest) member rest := by
  obtain ⟨blanks, hcolon, hblanks⟩ := hs.colon
  let value := (write s level member.2).toList
  have htext : (writeMember s level member).toList =
      '"' :: (stringBody name ++ (':' :: (blanks ++ value))) := by
    rw [writeMember, String.toList_append, String.toList_append, hcolon, hname, writeString,
      Option.getD_some, writeText_toList]
    simp [value]
  have hlength : value.length ≤ fuel := by
    rw [htext] at hfuel
    simp only [List.length_cons, List.length_append] at hfuel
    omega
  refine ⟨stringBody name ++ (':' :: (blanks ++ value) ++ rest), ':' :: (blanks ++ value) ++ rest,
    blanks ++ value ++ rest, ?_, ?_, ?_, ?_⟩
  · rw [htext, List.cons_append, List.append_assoc]
  · rw [hname]
    exact readString_stringBody name _
  · exact Visible.skipSpace_eq ⟨':', _, rfl, rfl⟩
  · rw [List.append_assoc, skipSpace_append _ _ hblanks, ((h.visible level).append rest).skipSpace_eq]
    exact h.read level fuel rest hlength

theorem writeMember_head (s : Spacing) (level : Nat) (member : Option String × Json) :
    ∃ cs, (writeMember s level member).toList = '"' :: cs := by
  rw [writeMember, writeString, String.toList_append, String.toList_append, writeText_toList]
  exact ⟨_, rfl⟩

theorem rereads_object (hs : s.Blank) (members : List (Option String × Json))
    (h : ∀ member ∈ members, ∃ name, member.1 = some name ∧ Rereads s member.2) :
    Rereads s (.object members) := by
  refine .of_cons '\x7b' rfl (by decide) fun level => ?_
  rw [write, writeMembers_eq]
  cases members with
  | nil => exact ⟨['\x7d'], by rw [List.map_nil, bracketed_nil]; rfl, fun _ _ _ => rfl⟩
  | cons x xs =>
    obtain ⟨inner, htext, hread⟩ := readsParts_members.read_bracketed rfl hs level
      (writeMember s (level + 1)) x xs fun y hy => by
        obtain ⟨name, hname, hvalue⟩ := h y hy
        obtain ⟨cs, hcs⟩ := writeMember_head s (level + 1) y
        exact ⟨⟨'"', cs, hcs, rfl⟩, readsMember hs (level + 1) hname hvalue⟩
    refine ⟨inner, htext "\x7b", fun fuel rest hfuel => ?_⟩
    obtain ⟨hhead, hmembers⟩ := hread fuel rest hfuel
    refine readValue_object ?_ hmembers
    obtain ⟨cs, hcs⟩ := writeMember_head s (level + 1) x
    rw [hhead, hcs]
    exact fun he => absurd (Option.some.inj he) (by decide)

/-! ### Texts -/

theorem Plain.rereads {j : Json} (h : Plain j) (hs : s.Blank) : Rereads s j := by
  induction h with
  | null => exact rereads_null
  | bool value => exact rereads_bool value
  | text text => exact rereads_text text
  | array items _ ih => exact rereads_array hs items ih
  | record members _ ih =>
    refine rereads_object hs _ ?_
    rw [List.forall_mem_map]
    exact fun member hmember => ⟨member.1, rfl, ih member hmember⟩

/-- A value without numbers is read again, whatever blanks its parts are set apart by. -/
theorem parse_write {j : Json} (h : Plain j) (hs : s.Blank) : parse (write s 0 j) = some j := by
  have hj := h.rereads hs
  have hread := hj.read 0 (2 * (write s 0 j).toList.length + 2) [] (by omega)
  rw [List.append_nil] at hread
  rw [parse, (hj.visible 0).skipSpace_eq, hread]
  rfl

end CrossBrowser.Document.Json
