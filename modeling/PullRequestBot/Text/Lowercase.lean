import PullRequestBot.Text.CaseTable

set_option autoImplicit false

/-! # Lower case

The lower case of a text: every capital letter is replaced by its small letter. Two letters are
special: a capital I with a dot becomes two characters, and a capital sigma at the end of a word
becomes the final small sigma. -/

namespace PullRequestBot.Text

/-- Whether the character is a letter with case. -/
def isCased (c : Char) : Bool :=
  c.isAlpha || casedRanges.any fun (low, high) => low ≤ c.toNat && c.toNat ≤ high

/-- Whether the character is passed over when looking for the letters around a sigma. -/
def isCaseIgnorable (c : Char) : Bool :=
  [0x27, 0x2E, 0x3A, 0x5E, 0x60].contains c.toNat ||
    caseIgnorableRanges.any fun (low, high) => low ≤ c.toNat && c.toNat ≤ high

/-- The small letter of a character, taken by itself. -/
def lowercaseChar (c : Char) : Char :=
  let n := c.toNat
  if n < 0x80 then c.toLower
  else
    match lowercaseRuns.find? fun (first, last, apart, _) =>
        first ≤ n && n ≤ last && (n - first) % apart == 0 with
    | some (_, _, _, distance) => Char.ofNat (Int.toNat (n + distance))
    | none => c

/-- Whether the nearest character that is not passed over is a letter with case. -/
def nextIsCased (cs : List Char) : Bool :=
  match cs.dropWhile isCaseIgnorable with
  | [] => false
  | c :: _ => isCased c

/-- Lower case of the rest of a text; `before` holds what was read, latest first. -/
def lowercaseFrom (before : List Char) : List Char → List Char
  | [] => []
  | c :: rest =>
    (if c = 'Σ' then
      [if nextIsCased before && !nextIsCased rest then 'ς' else 'σ']
    else if c = 'İ' then ['i', Char.ofNat 0x307]
    else [lowercaseChar c]) ++ lowercaseFrom (c :: before) rest

/-- The lower case of a text. -/
def lowercase (cs : List Char) : List Char :=
  lowercaseFrom [] cs

/-- `lowercase` on strings. -/
def lowercaseString (s : String) : String :=
  String.ofList (lowercase s.toList)

/-! ## Parts of a text -/

variable {c : Char} {cs : List Char}

/-- A character that is not passed over hides what comes after it. -/
theorem nextIsCased_append (h : isCaseIgnorable c = false) (first rest : List Char) :
    nextIsCased (first ++ c :: rest) = nextIsCased (first ++ [c]) := by
  unfold nextIsCased
  rw [List.dropWhile_append, List.dropWhile_append, List.dropWhile_cons_of_neg (by simp [h]),
    List.dropWhile_cons_of_neg (by simp [h])]
  cases first.dropWhile isCaseIgnorable <;> rfl

/-- The text up to a character that is not passed over has its lower case whatever comes after. -/
theorem lowercaseFrom_append (h : isCaseIgnorable c = false) (hsigma : c ≠ 'Σ')
    (before first rest : List Char) :
    lowercaseFrom before (first ++ c :: rest) =
      lowercaseFrom before (first ++ [c]) ++ lowercaseFrom (c :: (first.reverse ++ before)) rest := by
  induction first generalizing before with
  | nil => simp [lowercaseFrom, hsigma]
  | cons next more ih =>
      rw [List.cons_append, List.cons_append, lowercaseFrom, lowercaseFrom, nextIsCased_append h, ih]
      simp

/-- Without the special letters, each character has its own lower case. -/
theorem lowercaseFrom_eq_map (h : ∀ c ∈ cs, c ≠ 'Σ' ∧ c ≠ 'İ') (before : List Char) :
    lowercaseFrom before cs = cs.map lowercaseChar := by
  induction cs generalizing before with
  | nil => rfl
  | cons c rest ih =>
      obtain ⟨⟨hsigma, hdotted⟩, hrest⟩ := List.forall_mem_cons.1 h
      simp [lowercaseFrom, hsigma, hdotted, ih hrest]

end PullRequestBot.Text
