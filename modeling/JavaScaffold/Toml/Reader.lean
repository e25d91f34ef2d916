import JavaScaffold.Toml.Growth
import JavaScaffold.Toml.Moment
import JavaScaffold.Toml.Number

/-!
# Reading keys and values

## Main Definitions

* `key?`, `path?` — a key, and a path of keys with dots between them
* `scalar?` — a number, a truth value, a date or a time
* `value?` — a value of any kind
* `pair?` — a path of keys, an equals sign and a value

## Design Notes

Values nest at most 80 deep, and a path has at most 80 keys.  Both bounds are part of the language
as it is read here, and the readers recurse on them.

A line of a document holds one pair.  Between braces, a pair may be spread over several lines, with
comments on both sides of its equals sign; its path may not.
-/

namespace JavaScaffold.Toml

/-- The number of arrays and tables that may be open at once, and of keys in a path. -/
def maxDepth : Nat := 80

/-- Whether `c` may stand in a key without quotes. -/
def isBare (c : Char) : Bool :=
  c.isAlphanum || c == '_' || c == '-'

/-- Reads a key. -/
def key? : Reader String
  | [] => none
  | c :: rest =>
    if c = '"' || c = '\'' then quoted? (c :: rest)
    else if isBare c then
      some (String.ofList (c :: rest.takeWhile isBare),
        ⟨rest.dropWhile isBare, Nat.lt_succ_of_le (List.dropWhile_sublist _).length_le⟩)
    else none

/-- The text behind the character `c`, without what may stand on both sides of it. -/
def behind? (spread : Spread) (c : Char) (cs : List Char) : Option (Rest cs) :=
  match _h : spread.drop cs with
  | d :: rest =>
    if d = c then
      have h : (d :: rest).length ≤ cs.length := _h ▸ spread.length_drop_le cs
      some ⟨spread.drop rest, Nat.lt_of_le_of_lt (spread.length_drop_le rest) h⟩
    else none
  | [] => none

/-- Reads a path of at most `n` keys. -/
def keys? : Nat → Reader (List String)
  | 0, _ => none
  | n + 1, cs =>
    match key? cs with
    | none => none
    | some (key, rest) =>
      match behind? .oneLine '.' rest.1 with
      | none => some ([key], rest)
      | some more =>
        (keys? n more.1).map fun (path, last) =>
          (key :: path, (last.of (Nat.le_of_lt more.2)).of (Nat.le_of_lt rest.2))

/-- Reads a path of keys. -/
def path? : Reader (List String) :=
  keys? maxDepth

/-- Reads a path of keys, an equals sign and a value.  The path stands on one line; the three may be
spread. -/
def pair? (spread : Spread) (value : Reader Value) (cs : List Char) :
    Option ((List String × Value) × Rest cs) := do
  let (path, rest) ← path? cs
  let more ← behind? spread '=' rest.1
  let (v, last) ← value more.1
  return ((path, v), (last.of (Nat.le_of_lt more.2)).of (Nat.le_of_lt rest.2))

/-- Whether `c` ends a word of a scalar: it is a blank, a line end, or stands between values. -/
def endsWord (c : Char) : Bool :=
  [' ', '\t', '\n', '\r', '#', ',', '=', '[', ']', '{', '}'].contains c

/-- Whether a scalar may go on with `c` behind blanks. -/
def startsWord (c : Char) : Bool :=
  !endsWord c && c != '"' && c != '\'' && c != '.'

/-- The characters of the scalar at the start of the text: all its words, with the blanks between
them.  A date with a time of day may have two. -/
def scalarText (cs : List Char) : List Char :=
  let word := cs.takeWhile (!endsWord ·)
  let blanks := (cs.drop word.length).takeWhile fun c => c == ' ' || c == '\t'
  match _h : cs.drop (word.length + blanks.length) with
  | [] => word
  | c :: rest =>
    if _hc : blanks ≠ [] ∧ startsWord c then word ++ blanks ++ scalarText (c :: rest) else word
termination_by cs.length
decreasing_by
  have hdrop := congrArg List.length _h
  have hblanks := List.length_pos_iff.2 _hc.1
  simp only [List.length_drop, List.length_cons] at hdrop ⊢
  omega

/-- The value that the characters of a scalar write. -/
def scalarValue? (cs : List Char) : Option Value :=
  if cs = "true".toList then some (.boolean true)
  else if cs = "false".toList then some (.boolean false)
  else
    match integer? cs with
    | some v => some v
    | none =>
      match floating? cs with
      | some v => some v
      | none => if isMoment cs then some .moment else none

/-- Reads a number, a truth value, a date or a time. -/
def scalar? (cs : List Char) : Option (Value × Rest cs) :=
  let n := (scalarText cs).length
  if h : 0 < n ∧ 0 < cs.length then
    (scalarValue? (scalarText cs)).map fun v =>
      (v, ⟨cs.drop n, by rw [List.length_drop]; exact Nat.sub_lt h.2 h.1⟩)
  else none

/-- Whether three quotes in a row open a text. -/
def opensLines (cs : List Char) : Bool :=
  cs.take 3 == ['"', '"', '"'] || cs.take 3 == ['\'', '\'', '\'']

/-- Reads a text. -/
def text? (cs : List Char) : Option (Value × Rest cs) :=
  (if opensLines cs then quotedLines? cs else quoted? cs).map fun (s, rest) => (.text s, rest)

/-- Reads a value with at most `n` arrays and tables open at once. -/
def valueWithin : Nat → Reader Value
  | _, '"' :: rest => text? ('"' :: rest)
  | _, '\'' :: rest => text? ('\'' :: rest)
  | n + 1, '[' :: rest => do
    let (items, last) ← itemsUntil ']' (valueWithin n) rest
    return (.array .literal items, last.of (Nat.le_succ _))
  | n + 1, '{' :: rest => do
    let (entries, last) ← itemsUntil '}' (pair? .anyLines (valueWithin n)) rest
    return (.table .literal (← putEntries entries []), last.of (Nat.le_succ _))
  | _, cs => scalar? cs

/-- Reads a value. -/
def value? : Reader Value :=
  valueWithin maxDepth

end JavaScaffold.Toml
