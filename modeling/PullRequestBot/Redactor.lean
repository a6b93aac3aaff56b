import PullRequestBot.Redactor.Marks

set_option autoImplicit false

/-! # Masking secrets

A redactor holds a set of secret texts, the tokens. `redact` replaces every character of a text that
lies in an occurrence of a token by `*`. Occurrences are looked for in the text as it is given, so two
that overlap are both masked in full, and the result has as many characters as the text
(`redact_toList`).

The work is done on the bytes of the text by `redact?`, which has no result if it cuts through a
character or looks at a byte that does not exist. It never does (`redact?_eq`). -/

namespace PullRequestBot

open Text.Utf8 (encode)

/-! ## Redactors -/

/-- A set of tokens, each once and none of them empty, in the order in which they were added. -/
structure Redactor where
  tokens : List String := []
  nodup : tokens.Nodup := by simp
  nonempty : "" ∉ tokens := by simp

namespace Redactor

/-- The redactor without tokens. -/
def empty : Redactor := {}

instance : Inhabited Redactor := ⟨empty⟩

/-- Adds a token. An empty one, or one that is there already, changes nothing. -/
def add (redactor : Redactor) (token : String) : Redactor :=
  if h : token = "" ∨ token ∈ redactor.tokens then redactor
  else
    { tokens := redactor.tokens ++ [token]
      nodup := by
        have h := not_or.1 h
        simp only [List.nodup_append, redactor.nodup, List.nodup_cons, List.not_mem_nil,
          not_false_iff, List.nodup_nil, and_self, true_and, List.mem_singleton]
        intro a ha b hb hab
        exact h.2 (hb ▸ hab ▸ ha)
      nonempty := by
        have h := not_or.1 h
        simp only [List.mem_append, List.mem_singleton, not_or]
        exact ⟨redactor.nonempty, fun e => h.1 e.symm⟩ }

/-- The number of tokens. -/
def size (redactor : Redactor) : Nat :=
  redactor.tokens.length

/-- Whether there is nothing to mask. -/
def isEmpty (redactor : Redactor) : Bool :=
  redactor.tokens.isEmpty

/-- Whether there is something to mask. -/
def isActive (redactor : Redactor) : Bool :=
  !redactor.isEmpty

/-! ## Masking -/

/-- Masks every character of a text that lies in an occurrence of a token, by way of its bytes. -/
def redact? (redactor : Redactor) (text : String) : Option String :=
  if redactor.isEmpty || text.isEmpty then some text
  else do
    let bytes := encode text
    let marks ← markAll bytes (redactor.tokens.map encode) (Marks.clear bytes.length)
    if !marks.any then return text
    let shown ← maskFrom marks.flags 0 text.toList
    return String.ofList shown

/-- Whether an occurrence of some token lies over the character of index `i`. -/
def Covers (redactor : Redactor) (text : List Char) (i : Nat) : Prop :=
  ∃ token ∈ redactor.tokens, LiesOver token.toList text i

instance (redactor : Redactor) (text : List Char) (i : Nat) : Decidable (redactor.Covers text i) :=
  inferInstanceAs (Decidable (∃ token ∈ redactor.tokens, _))

/-- A text in which every covered character is masked. -/
def masked (redactor : Redactor) (text : List Char) : List Char :=
  text.mapIdx fun i c => if redactor.Covers text i then maskChar else c

theorem masked_of_not_covers {redactor : Redactor} {text : List Char}
    (h : ∀ i < text.length, ¬ redactor.Covers text i) : redactor.masked text = text := by
  refine List.ext_getElem List.length_mapIdx fun i hi hi' => ?_
  simp only [masked, List.getElem_mapIdx, if_neg (h i hi')]

theorem covers_iff (redactor : Redactor) (text : List Char) (i : Nat) :
    redactor.Covers text i ↔ ∃ token ∈ redactor.tokens.map String.toList, LiesOver token text i := by
  constructor
  · rintro ⟨token, htoken, h⟩
    exact ⟨token.toList, List.mem_map_of_mem htoken, h⟩
  · rintro ⟨cs, hcs, h⟩
    obtain ⟨token, htoken, rfl⟩ := List.mem_map.1 hcs
    exact ⟨token, htoken, h⟩

theorem nil_not_mem_tokens (redactor : Redactor) : [] ∉ redactor.tokens.map String.toList := by
  intro h
  obtain ⟨token, htoken, hnil⟩ := List.mem_map.1 h
  rw [String.toList_eq_nil_iff] at hnil
  exact redactor.nonempty (hnil ▸ htoken)

/-- **Masking by way of the bytes has a result**, with exactly the covered characters masked. -/
theorem redact?_eq (redactor : Redactor) (text : String) :
    redactor.redact? text = some (String.ofList (redactor.masked text.toList)) := by
  unfold redact?
  split
  · next hempty =>
      have hnone : ∀ i < text.toList.length, ¬ redactor.Covers text.toList i := by
        rintro i hi ⟨token, htoken, -⟩
        rw [Bool.or_eq_true] at hempty
        rcases hempty with hempty | hempty
        · rw [isEmpty, List.isEmpty_iff] at hempty
          exact absurd htoken (hempty ▸ List.not_mem_nil)
        · rw [String.isEmpty_iff] at hempty
          rw [hempty] at hi
          exact absurd hi (Nat.not_lt_zero i)
      rw [masked_of_not_covers hnone, String.ofList_toList]
  · obtain ⟨marks, hmarks, hshows⟩ := markAll_shows redactor.nil_not_mem_tokens text.toList
      (Marks.Shows.clear text.toList)
    replace hshows := hshows.congr fun i => by
      rw [false_or, ← redactor.covers_iff text.toList i]
    have hbytes : markAll (encode text) (redactor.tokens.map encode)
        (Marks.clear (encode text).length) = some marks := by
      rw [← hmarks, List.map_map]
      rfl
    have hshown := maskFrom_eq marks.flags 0 text.toList
      (fun i => decide (redactor.Covers text.toList i)) fun i hi => by
        obtain ⟨flag, hflag⟩ := hshows.exists_flag hi
        rw [Nat.zero_add, hflag, Option.some.injEq, Bool.eq_iff_iff, decide_eq_true_eq,
          ← hshows.flag i hi, hflag, Option.some.injEq]
    simp only [hbytes, hshown, Option.bind_eq_bind, Option.bind_some]
    split
    · next hany =>
        have hnone := hshows.seen (by simpa using hany)
        rw [masked_of_not_covers hnone, String.ofList_toList]
        rfl
    · simp only [masked, decide_eq_true_eq]
      rfl

/-- Masks every character of a text that lies in an occurrence of a token. -/
def redact (redactor : Redactor) (text : String) : String :=
  (redactor.redact? text).get (by rw [redact?_eq]; rfl)

theorem redact_eq (redactor : Redactor) (text : String) :
    redactor.redact text = String.ofList (redactor.masked text.toList) := by
  simp only [redact, redact?_eq, Option.get_some]

@[simp] theorem redact_toList (redactor : Redactor) (text : String) :
    (redactor.redact text).toList = redactor.masked text.toList := by
  rw [redact_eq, String.toList_ofList]

/-- A command line: the program and its arguments, one blank between two. -/
def commandLine (program : String) (arguments : List String) : String :=
  arguments.foldl (fun line argument => line ++ " " ++ argument) program

/-- The masked command line. -/
def redactCommand (redactor : Redactor) (program : String) (arguments : List String) : String :=
  redactor.redact (commandLine program arguments)

/-- What may be shown of a redactor: how many tokens it holds. -/
def description (redactor : Redactor) : String :=
  s!"Redactor \x7b tokens: {redactor.size} \x7d"

end Redactor

end PullRequestBot
