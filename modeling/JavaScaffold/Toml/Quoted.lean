import JavaScaffold.Toml.Gap

/-!
# Quoted texts

Texts stand in double quotes, where a backslash starts an escape, or in single quotes, where every
character stands for itself.  Three quotes in place of one make a text that may span lines.

## Main Definitions

* `escape?` — the character that an escape stands for
* `quoted?` — a text in one pair of quotes
* `quotedLines?` — a text in a pair of three quotes each
-/

namespace JavaScaffold.Toml

/-- The value of a hexadecimal digit. -/
def hexDigit? (c : Char) : Option Nat :=
  if '0' ≤ c && c ≤ '9' then some (c.toNat - '0'.toNat)
  else if 'a' ≤ c && c ≤ 'f' then some (c.toNat - 'a'.toNat + 10)
  else if 'A' ≤ c && c ≤ 'F' then some (c.toNat - 'A'.toNat + 10)
  else none

/-- The number that hexadecimal digits write. -/
def hexNumber? (cs : List Char) : Option Nat :=
  cs.foldl (fun acc c => do return 16 * (← acc) + (← hexDigit? c)) (some 0)

/-- The character whose number is given by the first `n` characters. -/
def codePoint? (n : Nat) (cs : List Char) : Option Char :=
  if n ≤ cs.length then do
    let number ← hexNumber? (cs.take n)
    if h : number.isValidChar then some (Char.ofNatAux number h) else none
  else none

/-- The character that the escape stands for whose text, after the backslash, is at the start of
the argument, and the length of that text. -/
def escape? : List Char → Option (Char × Nat)
  | [] => none
  | c :: rest =>
    match c with
    | 'b' => some ('\x08', 1)
    | 't' => some ('\t', 1)
    | 'n' => some ('\n', 1)
    | 'f' => some ('\x0c', 1)
    | 'r' => some ('\r', 1)
    | 'e' => some ('\x1b', 1)
    | '"' => some ('"', 1)
    | '\\' => some ('\\', 1)
    | 'x' => (codePoint? 2 rest).map (·, 3)
    | 'u' => (codePoint? 4 rest).map (·, 5)
    | 'U' => (codePoint? 8 rest).map (·, 9)
    | _ => none

/-- The text up to the closing double quote, and what follows that. -/
def escapedText : List Char → Option (List Char × List Char)
  | [] => none
  | '"' :: rest => some ([], rest)
  | '\\' :: rest =>
    match escape? rest with
    | none => none
    | some (c, n) => (escapedText (rest.drop n)).map fun (text, rest) => (c :: text, rest)
  | c :: rest =>
    if isPlain c then (escapedText rest).map fun (text, rest) => (c :: text, rest) else none
termination_by cs => cs.length
decreasing_by
  all_goals simp only [List.length_cons, List.length_drop]
  all_goals omega

/-- Whatever follows a quoted text is shorter than the text and its closing quote. -/
theorem length_escapedText_lt {cs text rest : List Char} (h : escapedText cs = some (text, rest)) :
    rest.length < cs.length := by
  fun_induction escapedText cs generalizing text rest with
  | case1 => simp at h
  | case2 => simp_all
  | case3 => simp at h
  | case4 r c n he ih =>
    obtain ⟨⟨t, r'⟩, ht, heq⟩ := Option.map_eq_some_iff.1 h
    obtain ⟨-, rfl⟩ := Prod.mk.inj heq
    have := ih ht
    simp only [List.length_drop, List.length_cons] at *
    omega
  | case5 c r _ _ _ ih =>
    obtain ⟨⟨t, r'⟩, ht, heq⟩ := Option.map_eq_some_iff.1 h
    obtain ⟨-, rfl⟩ := Prod.mk.inj heq
    have := ih ht
    simp only [List.length_cons]
    omega
  | case6 => simp at h

/-- The text up to the closing single quote, and what follows that. -/
def plainText : List Char → Option (List Char × List Char)
  | [] => none
  | '\'' :: rest => some ([], rest)
  | c :: rest =>
    if isPlain c then (plainText rest).map fun (text, rest) => (c :: text, rest) else none

theorem length_plainText_lt {cs text rest : List Char} (h : plainText cs = some (text, rest)) :
    rest.length < cs.length := by
  fun_induction plainText cs generalizing text rest with
  | case1 => simp at h
  | case2 => simp_all
  | case3 c r _ _ ih =>
    obtain ⟨⟨t, r'⟩, ht, heq⟩ := Option.map_eq_some_iff.1 h
    obtain ⟨-, rfl⟩ := Prod.mk.inj heq
    have := ih ht
    simp only [List.length_cons]
    omega
  | case4 => simp at h

/-- A text read behind an opening quote, with what follows its closing quote. -/
def closed {ds : List Char} (cs : List Char) (read : Option (List Char × List Char))
    (h : ∀ {text rest}, read = some (text, rest) → rest.length < ds.length)
    (hds : ds.length ≤ cs.length) : Option (String × Rest cs) :=
  read.attach.map fun ⟨(text, rest), hr⟩ =>
    (String.ofList text, ⟨rest, Nat.lt_of_lt_of_le (h hr) hds⟩)

/-- Reads a text in one pair of quotes. -/
def quoted? : Reader String
  | '"' :: rest => closed _ (escapedText rest) length_escapedText_lt (by simp)
  | '\'' :: rest => closed _ (plainText rest) length_plainText_lt (by simp)
  | _ => none

/-- The text without the blanks and line ends at its start. -/
def dropBlankLines : List Char → List Char
  | ' ' :: rest | '\t' :: rest | '\n' :: rest => dropBlankLines rest
  | '\r' :: '\n' :: rest => dropBlankLines rest
  | cs => cs

theorem length_dropBlankLines_le (cs : List Char) : (dropBlankLines cs).length ≤ cs.length := by
  fun_induction dropBlankLines cs with
  | case1 rest ih | case2 rest ih | case3 rest ih => simp only [List.length_cons]; omega
  | case4 rest ih => simp only [List.length_cons]; omega
  | case5 => exact Nat.le_refl _

/-- The quotes, two at most, that stand right behind the closing three and belong to the text. -/
def innerQuotes (quote : Char) (rest : List Char) : List Char :=
  (rest.takeWhile (· == quote)).take 2

/-- The text up to the closing three double quotes, and what follows those.  A line end belongs to
the text as it is written.  A backslash at the end of a line removes the blanks and line ends that
follow it. -/
def escapedLines : List Char → Option (List Char × List Char)
  | [] => none
  | '"' :: '"' :: '"' :: rest =>
    some (innerQuotes '"' rest, rest.drop (innerQuotes '"' rest).length)
  | '\r' :: '\n' :: rest =>
    (escapedLines rest).map fun (text, rest) => ('\r' :: '\n' :: text, rest)
  | '\n' :: rest => (escapedLines rest).map fun (text, rest) => ('\n' :: text, rest)
  | '\\' :: rest =>
    match dropLineEnd? (dropBlanks rest) with
    | some _ => escapedLines (dropBlankLines rest)
    | none =>
      match escape? rest with
      | none => none
      | some (c, n) => (escapedLines (rest.drop n)).map fun (text, rest) => (c :: text, rest)
  | c :: rest =>
    if isPlain c then (escapedLines rest).map fun (text, rest) => (c :: text, rest) else none
termination_by cs => cs.length
decreasing_by
  all_goals simp only [List.length_cons, List.length_drop]
  all_goals first
    | omega
    | have := length_dropBlankLines_le rest
      omega

theorem length_escapedLines_lt {cs text rest : List Char}
    (h : escapedLines cs = some (text, rest)) : rest.length < cs.length := by
  fun_induction escapedLines cs generalizing text rest with
  | case1 => simp at h
  | case2 r =>
    obtain ⟨-, rfl⟩ := Prod.mk.inj (Option.some.inj h)
    simp only [List.length_drop, List.length_cons]
    omega
  | case3 r ih | case4 r ih =>
    obtain ⟨⟨t, r'⟩, ht, heq⟩ := Option.map_eq_some_iff.1 h
    obtain ⟨-, rfl⟩ := Prod.mk.inj heq
    have := ih ht
    simp only [List.length_cons]
    omega
  | case5 r _ _ ih =>
    have := ih h
    have := length_dropBlankLines_le r
    simp only [List.length_cons]
    omega
  | case6 => simp at h
  | case7 r _ c n _ ih =>
    obtain ⟨⟨t, r'⟩, ht, heq⟩ := Option.map_eq_some_iff.1 h
    obtain ⟨-, rfl⟩ := Prod.mk.inj heq
    have := ih ht
    simp only [List.length_drop, List.length_cons] at *
    omega
  | case8 c r _ _ _ _ _ ih =>
    obtain ⟨⟨t, r'⟩, ht, heq⟩ := Option.map_eq_some_iff.1 h
    obtain ⟨-, rfl⟩ := Prod.mk.inj heq
    have := ih ht
    simp only [List.length_cons]
    omega
  | case9 => simp at h

/-- The text up to the closing three single quotes, and what follows those.  A line end belongs to
the text as it is written. -/
def plainLines : List Char → Option (List Char × List Char)
  | [] => none
  | '\'' :: '\'' :: '\'' :: rest =>
    some (innerQuotes '\'' rest, rest.drop (innerQuotes '\'' rest).length)
  | '\r' :: '\n' :: rest =>
    (plainLines rest).map fun (text, rest) => ('\r' :: '\n' :: text, rest)
  | '\n' :: rest => (plainLines rest).map fun (text, rest) => ('\n' :: text, rest)
  | c :: rest =>
    if isPlain c then (plainLines rest).map fun (text, rest) => (c :: text, rest) else none

theorem length_plainLines_lt {cs text rest : List Char}
    (h : plainLines cs = some (text, rest)) : rest.length < cs.length := by
  fun_induction plainLines cs generalizing text rest with
  | case1 => simp at h
  | case2 r =>
    obtain ⟨-, rfl⟩ := Prod.mk.inj (Option.some.inj h)
    simp only [List.length_drop, List.length_cons]
    omega
  | case3 r ih | case4 r ih =>
    obtain ⟨⟨t, r'⟩, ht, heq⟩ := Option.map_eq_some_iff.1 h
    obtain ⟨-, rfl⟩ := Prod.mk.inj heq
    have := ih ht
    simp only [List.length_cons]
    omega
  | case5 c r _ _ _ _ ih =>
    obtain ⟨⟨t, r'⟩, ht, heq⟩ := Option.map_eq_some_iff.1 h
    obtain ⟨-, rfl⟩ := Prod.mk.inj heq
    have := ih ht
    simp only [List.length_cons]
    omega
  | case6 => simp at h

/-- The text without a line end right at its start. -/
def dropFirstLineEnd (cs : List Char) : List Char :=
  (dropLineEnd? cs).getD cs

theorem length_dropFirstLineEnd_le (cs : List Char) :
    (dropFirstLineEnd cs).length ≤ cs.length := by
  unfold dropFirstLineEnd
  cases h : dropLineEnd? cs with
  | none => exact Nat.le_refl _
  | some rest => exact length_dropLineEnd?_le h

/-- Reads a text in a pair of three quotes each.  A line end right behind the opening quotes does
not belong to the text. -/
def quotedLines? : Reader String
  | '"' :: '"' :: '"' :: rest =>
    closed _ (escapedLines (dropFirstLineEnd rest)) length_escapedLines_lt (by
      have := length_dropFirstLineEnd_le rest
      simp only [List.length_cons]
      omega)
  | '\'' :: '\'' :: '\'' :: rest =>
    closed _ (plainLines (dropFirstLineEnd rest)) length_plainLines_lt (by
      have := length_dropFirstLineEnd_le rest
      simp only [List.length_cons]
      omega)
  | _ => none

end JavaScaffold.Toml
