import CrossBrowser.Document.Yaml.Folding

/-! Plain scalars: those without quotes.

A plain scalar ends before a colon that ends a word, before a comment, and before a line that is
indented too little; within brackets it also ends before a bracket or comma. -/
namespace CrossBrowser.Document.Yaml.Plain

/-- Whether a character ends a plain scalar within brackets. -/
def isFlowMark (c : Char) : Bool :=
  c == ',' || c == '[' || c == ']' || c == '\x7b' || c == '\x7d'

/-- Whether a plain scalar ends before this text. -/
def endsBefore (inFlow : Bool) : List Char → Bool
  | [] => true
  | c :: rest => isBlank c || isBreak c || (c == ':' && endsWord rest) || (inFlow && isFlowMark c)

/-- Whether a colon stands in front of a mark, within brackets: there it is neither part of a scalar
nor an indicator. -/
def isStrayColon : List Char → Bool
  | ':' :: c :: _ => isFlowMark c || c == '?'
  | _ => false

/-- The characters of a word. None if a stray colon is in it. -/
def word? (inFlow : Bool) : List Char → Option (List Char)
  | [] => some []
  | c :: rest =>
    if isBlank c || isBreak c then some []
    else if inFlow && isStrayColon (c :: rest) then none
    else if endsBefore inFlow (c :: rest) then some []
    else (word? inFlow rest).map (c :: ·)

/-- Whether a tab may stand in front of a cursor: not in the indentation of a line. -/
def blankAllowed (indent : Nat) (newLine : Bool) (c : Cursor) : Bool :=
  !(newLine && c.column < indent && c.rest.head? == some '\t')

/-- Reads on a plain scalar. `text` is what has been read, and `gap` what stands before the cursor.
Gives the text, the cursor after the scalar and the gap after it, and whether a line ended in that
gap. -/
def readOn (inFlow : Bool) (indent : Nat) :
    Nat → List Char → Gap → Cursor → Option (List Char × Cursor × Bool)
  | 0, text, gap, c => some (text, c, gap.broken)
  | fuel + 1, text, gap, c => do
    if c.atDocumentMark || c.rest.head? == some '#' then return (text, c, gap.broken)
    let word ← word? inFlow c.rest
    let c := c.advance word.length
    let (text, gap) := if word = [] then (text, gap) else (text ++ gap.folded ++ word, Gap.empty)
    match c.rest with
    | [] => return (text, c, gap.broken)
    | b :: _ =>
      if !(isBlank b || isBreak b) then return (text, c, gap.broken)
      else
        let (gap, c) ← c.gap? (blankAllowed indent) c.rest.length gap
        if !inFlow && c.column < indent then return (text, c, gap.broken)
        else readOn inFlow indent fuel text gap c

/-- Reads a plain scalar whose further lines must be indented by `indent`. -/
def read (inFlow : Bool) (indent : Nat) (c : Cursor) : Option (String × Cursor × Bool) := do
  let (text, c, broken) ← readOn inFlow indent (c.rest.length + 1) [] .empty c
  return (String.ofList text, c, broken)

end CrossBrowser.Document.Yaml.Plain
