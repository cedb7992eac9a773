import ComparativeLaw.Comparison

namespace ComparativeLaw

namespace Report

def ruler : String := String.ofList (List.replicate 72 '=')

/-- A text with spaces after it up to a width. -/
def padRight (width : Nat) (s : String) : List Char :=
  s.toList ++ List.replicate (width - Text.size s) ' '

/-- A text with spaces before it up to a width. -/
def padLeft (width : Nat) (s : String) : List Char :=
  List.replicate (width - Text.size s) ' ' ++ s.toList

/-- The width of the columns: one more than the longest code, and at least six. -/
def columnWidth (codes : List String) : Nat :=
  codes.foldl (fun w c => max w (Text.size c + 1)) 6

/-- A row of the table: a heading and the cells. -/
def row (width : Nat) (heading : String) (cells : List String) : List Char :=
  padRight width heading ++ cells.flatMap (padLeft width)

/-- The table of similarities with the codes above and before it. -/
def table (c : Comparison) : List (List Char) :=
  let codes := c.codes.map Code.plain
  let width := columnWidth codes
  row width "" codes ::
    (codes.zip c.similarity).map fun e => row width e.1 (e.2.map Similarity.text)

def commaList (codes : List Code) : String := ", ".intercalate (codes.map Code.plain)

def majorityLine (c : Comparison) : String :=
  match c.leader with
  | none => "Majority rule: none (no known entries)"
  | some (r, adopters) =>
    s!"Majority rule: {r.label} ({adopters.length} jurisdictions: {commaList adopters})"

def minorityLines (c : Comparison) : List String :=
  if c.minority.isEmpty then ["Minority rules: none"]
  else "Minority rules:" :: c.minority.map fun (r, adopters) =>
    s!"  - {r.label} ({adopters.length}: {commaList adopters})"

def unknownLines (c : Comparison) : List String :=
  if c.unknown.isEmpty then [] else [s!"Unknown (insufficient data): {commaList c.unknown}"]

def ruleLine (c : Comparison) (code : Code) : String :=
  let shown := ((c.rule? code).map Rule.label).getD "unknown"
  s!"  {code.plain}: {shown}"

def lines (c : Comparison) : List String :=
  [ruler, s!"Comparative analysis: {c.topic.label}", ruler,
    s!"Jurisdictions compared: {commaList c.codes}",
    s!"Known entries: {c.knownCount} of {c.codes.length}", "", majorityLine c] ++
  minorityLines c ++ unknownLines c ++ ["", "Rules by jurisdiction:"] ++
  c.codes.map (ruleLine c) ++
  ["", "Similarity matrix (1.00 same, 0.00 different, 0.50 insufficient data):"] ++
  (table c).map String.ofList

end Report

/-- The report of a comparison, whose codes must be texts and whose rules must have labels. -/
def Comparison.report (c : Comparison) : Except Fault String := do
  if !c.codes.all Code.isText then .error .wrongKind
  c.checkLabels
  return "\n".intercalate (Report.lines c) ++ "\n"

end ComparativeLaw
