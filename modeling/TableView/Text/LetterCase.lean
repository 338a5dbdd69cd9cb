import TableView.Text.CaseTable

/-!
# Letter case of texts

Lower case follows the full Unicode mapping: a character may become several, and a capital sigma
becomes its final form at the end of a word. Capitalizing gives the first character its title
case and lowers the rest.
-/

namespace TableView.Text

/-- The code point that the rows of a simple case mapping give for a code point. -/
def mapByRows (rows : List (Nat × Nat × Nat × Int)) (n : Nat) : Nat :=
  match rows.find? fun r => r.1 ≤ n && n ≤ r.2.1 && (n - r.1) % r.2.2.1 == 0 with
  | some r => (n + r.2.2.2 : Int).toNat
  | none => n

/-- The characters that a case mapping gives for one character. -/
def mapCase (rows : List (Nat × Nat × Nat × Int)) (expansions : List (Nat × List Nat))
    (c : Char) : List Char :=
  match expansions.lookup c.toNat with
  | some several => several.map Char.ofNat
  | none => [Char.ofNat (mapByRows rows c.toNat)]

/-- Lower case of one character, whatever stands around it. -/
def lowerChar (c : Char) : List Char :=
  mapCase lowerRows lowerExpansions c

/-- Title case of one character. -/
def titleChar (c : Char) : List Char :=
  mapCase titleRows titleExpansions c

/-- Whether the first character that a search does not skip is a cased letter. -/
def meetsCased (cs : List Char) : Bool :=
  let within (table : List (Nat × Nat)) (c : Char) : Bool :=
    table.any fun r => r.1 ≤ c.toNat && c.toNat ≤ r.2
  match cs.dropWhile (within caseIgnorableRanges) with
  | c :: _ => within casedRanges c
  | [] => false

/-- Lower case of a text that follows the characters `before`, nearest first. A capital sigma
takes its final form after a cased letter and not before one. -/
def lowerAfter : List Char → List Char → List Char
  | _, [] => []
  | before, c :: rest =>
    let here :=
      if c = 'Σ' then [if meetsCased before && !meetsCased rest then 'ς' else 'σ']
      else lowerChar c
    here ++ lowerAfter (c :: before) rest

/-- Lower case of a text. -/
def lower (s : String) : String :=
  String.ofList (lowerAfter [] s.toList)

/-- The text with its first character in title case and the rest in lower case. -/
def capitalize (s : String) : String :=
  match s.toList with
  | [] => ""
  | c :: rest => String.ofList (titleChar c ++ lowerAfter [c] rest)

end TableView.Text
