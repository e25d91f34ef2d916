/-!
# Blanks, comments and line ends

## Main Definitions

* `Rest`, `Reader` — a function that reads something from the start of a text, and what it leaves
* `dropBlanks`, `dropGap` — a text without the blanks, or all that may stand between two items, at
  its start
* `Spread` — whether something has to stand on one line
* `endLine?` — what follows the end of a line
* `itemsUntil` — items between commas, up to a closing character

## Design Notes

A reader that succeeds has taken at least one character, and its type says so.  Whoever reads item
after item comes to an end because of that.

A control character ends a comment without ending its line.  Nothing else can start with one, so a
text with such a comment is refused where the comment stops.
-/

namespace JavaScaffold.Toml

/-- What is left of the text `cs` after something at its start has been read. -/
abbrev Rest (cs : List Char) := { rest : List Char // rest.length < cs.length }

/-- Reads something from the start of a text, and gives it with the rest of the text. -/
abbrev Reader (α : Type) := (cs : List Char) → Option (α × Rest cs)

/-- The rest of a text as a rest of a longer one. -/
def Rest.of {cs ds : List Char} (rest : Rest ds) (h : ds.length ≤ cs.length) : Rest cs :=
  ⟨rest.1, Nat.lt_of_lt_of_le rest.2 h⟩

/-- Whether `c` may stand as itself in comments and quoted texts: control characters may not, the
tab apart. -/
def isPlain (c : Char) : Bool :=
  c == '\t' || (' ' ≤ c && c != '\x7f')

/-- The text without the spaces and tabs at its start. -/
def dropBlanks (cs : List Char) : List Char :=
  cs.dropWhile fun c => c == ' ' || c == '\t'

/-- The text without the line end at its start, if there is one. -/
def dropLineEnd? : List Char → Option (List Char)
  | '\n' :: rest => some rest
  | '\r' :: '\n' :: rest => some rest
  | _ => none

/-- The text without the comment at its start. -/
def dropComment : List Char → List Char
  | '#' :: rest => rest.dropWhile isPlain
  | cs => cs

/-- The text without the blanks, line ends and comments at its start. -/
def dropGap : List Char → List Char
  | ' ' :: rest | '\t' :: rest | '\n' :: rest => dropGap rest
  | '\r' :: '\n' :: rest => dropGap rest
  | '#' :: rest => dropGap (rest.dropWhile isPlain)
  | cs => cs
termination_by cs => cs.length
decreasing_by
  all_goals simp only [List.length_cons]
  all_goals first
    | omega
    | have := (List.dropWhile_sublist isPlain (l := rest)).length_le
      omega

theorem length_dropBlanks_le (cs : List Char) : (dropBlanks cs).length ≤ cs.length :=
  (List.dropWhile_sublist _).length_le

theorem length_dropComment_le (cs : List Char) : (dropComment cs).length ≤ cs.length := by
  unfold dropComment
  split
  · next rest =>
    have := (List.dropWhile_sublist isPlain (l := rest)).length_le
    simp only [List.length_cons]
    omega
  · exact Nat.le_refl _

theorem length_dropLineEnd?_le {cs rest : List Char} (h : dropLineEnd? cs = some rest) :
    rest.length ≤ cs.length := by
  unfold dropLineEnd? at h
  split at h
  · obtain rfl := Option.some.inj h
    exact Nat.le_succ _
  · obtain rfl := Option.some.inj h
    exact Nat.le_add_right _ 2
  · simp at h

theorem length_dropGap_le (cs : List Char) : (dropGap cs).length ≤ cs.length := by
  fun_induction dropGap cs with
  | case1 rest ih | case2 rest ih | case3 rest ih => simp only [List.length_cons]; omega
  | case4 rest ih => simp only [List.length_cons]; omega
  | case5 rest ih =>
    have := (List.dropWhile_sublist isPlain (l := rest)).length_le
    simp only [List.length_cons]
    omega
  | case6 => exact Nat.le_refl _

/-- Over how many lines the parts of something may be spread. -/
inductive Spread
  /-- One line: only blanks come between the parts. -/
  | oneLine
  /-- As many as wanted: line ends and comments come between the parts, too. -/
  | anyLines

/-- The text without what may stand between two parts, at its start. -/
def Spread.drop : Spread → List Char → List Char
  | oneLine => dropBlanks
  | anyLines => dropGap

theorem Spread.length_drop_le (spread : Spread) (cs : List Char) :
    (spread.drop cs).length ≤ cs.length := by
  cases spread
  · exact length_dropBlanks_le cs
  · exact length_dropGap_le cs

/-- The text after the end of the line, when only blanks and a comment stand before that. -/
def endLine? (cs : List Char) : Option (List Char) :=
  match dropComment (dropBlanks cs) with
  | [] => some []
  | rest => dropLineEnd? rest

theorem length_endLine?_le {cs rest : List Char} (h : endLine? cs = some rest) :
    rest.length ≤ cs.length := by
  have hc := length_dropComment_le (dropBlanks cs)
  have hb := length_dropBlanks_le cs
  unfold endLine? at h
  split at h
  · obtain rfl := Option.some.inj h
    exact Nat.zero_le _
  · have := length_dropLineEnd?_le h
    omega

/-- Reads items between commas up to the character `close`.  A comma may follow the last item. -/
def itemsUntil {α : Type} (close : Char) (item : Reader α) (cs : List Char) :
    Option (List α × Rest cs) :=
  match _h : dropGap cs with
  | [] => none
  | c :: rest =>
    have hrest : (c :: rest).length ≤ cs.length := _h ▸ length_dropGap_le cs
    if c = close then some ([], ⟨rest, hrest⟩)
    else
      match item (c :: rest) with
      | none => none
      | some (a, after) =>
        match _h' : dropGap after.1 with
        | [] => none
        | d :: more =>
          have hmore : (d :: more).length ≤ after.1.length := _h' ▸ length_dropGap_le after.1
          have hless : more.length < cs.length := by
            have := after.2
            simp only [List.length_cons] at *
            omega
          if d = close then some ([a], ⟨more, hless⟩)
          else if d = ',' then
            (itemsUntil close item more).map fun (as, rest) =>
              (a :: as, rest.of (Nat.le_of_lt hless))
          else none
termination_by cs.length

end JavaScaffold.Toml
