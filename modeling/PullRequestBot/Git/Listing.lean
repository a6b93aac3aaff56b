import PullRequestBot.Text.Boundary
import PullRequestBot.Text.Split

set_option autoImplicit false

/-! # Listings of paths

Git lists paths with a NUL behind each. A `Listing` is such a text together with the place, among its
bytes, up to which it has been read, and `next` reads on to the next path. The reading itself is done by
`read?`, which has no result if it cuts through a character; it never does (`read?_placeOf`).

The paths that are left are the pieces between the NULs that are not empty (`left`): `next` gives the first
of them and leaves the others (`next_fst`, `left_next`). -/

namespace PullRequestBot.Git

open Text.Utf8

/-- The paths in a text, each ended by a NUL. -/
def listedPaths (output : List Char) : List (List Char) :=
  (Text.pieces '\x00' output).filter fun piece => !piece.isEmpty

theorem listedPaths_of_not_mem {cs : List Char} (h : '\x00' ∉ cs) (hne : cs ≠ []) :
    listedPaths cs = [cs] := by
  rw [listedPaths, Text.pieces_of_not_mem h]
  exact List.filter_cons_of_pos (by simpa using hne)

/-- A path in front of a NUL comes first, unless it is empty. -/
theorem listedPaths_append {front : List Char} (h : '\x00' ∉ front) (back : List Char) :
    listedPaths (front ++ '\x00' :: back) =
      if front = [] then listedPaths back else front :: listedPaths back := by
  rw [listedPaths, Text.pieces_append h, List.filter_cons]
  cases front with
  | nil | cons c rest => rfl

namespace Listing

/-! ## Reading bytes -/

/-- The entry at the front of some bytes, up to a NUL or to the end, and how far it is to the next one. -/
def firstPiece? (bytes : List UInt8) : Option (List UInt8 × Nat) :=
  match find? (encodeChars ['\x00']) bytes with
  | none => some (bytes, bytes.length)
  | some size => (sliceTo? bytes size).map fun entry => (entry, size + 1)

theorem firstPiece?_pos {bytes entry : List UInt8} {advance : Nat} (hne : bytes ≠ [])
    (h : firstPiece? bytes = some (entry, advance)) : 0 < advance := by
  unfold firstPiece? at h
  split at h
  · obtain ⟨-, rfl⟩ := Prod.mk.inj (Option.some.inj h)
    exact List.length_pos_iff.2 hne
  · obtain ⟨_, -, heq⟩ := Option.map_eq_some_iff.1 h
    obtain ⟨-, rfl⟩ := Prod.mk.inj heq
    exact Nat.succ_pos _

theorem ne_nil_of_sliceFrom? {bytes rest : List UInt8} {place : Nat} (hplace : place < bytes.length)
    (h : sliceFrom? bytes place = some rest) : rest ≠ [] := by
  unfold sliceFrom? at h
  split at h
  · obtain rfl := Option.some.inj h
    exact mt List.drop_eq_nil_iff.1 (Nat.not_le_of_lt hplace)
  · cases h

/-- Reads on from a place: the next entry that is not empty, if there is one, and the place behind it. -/
def readFrom? (bytes : List UInt8) (place : Nat) : Option (Option (List UInt8) × Nat) :=
  if _hplace : place < bytes.length then
    match _hrest : sliceFrom? bytes place with
    | none => none
    | some rest =>
      match _hentry : firstPiece? rest with
      | none => none
      | some (entry, advance) =>
        if entry.isEmpty then readFrom? bytes (place + advance)
        else some (some entry, place + advance)
  else some (none, place)
termination_by bytes.length - place
decreasing_by
  have hadvance := firstPiece?_pos (ne_nil_of_sliceFrom? _hplace _hrest) _hentry
  omega

variable {bytes rest entry : List UInt8} {place advance : Nat}

/-- An entry that is not empty is what is read. -/
theorem readFrom?_of_entry (hplace : place < bytes.length) (hrest : sliceFrom? bytes place = some rest)
    (hentry : firstPiece? rest = some (entry, advance)) (hne : entry ≠ []) :
    readFrom? bytes place = some (some entry, place + advance) := by
  rw [readFrom?, dif_pos hplace]
  split
  · next hnone => rw [hrest] at hnone; cases hnone
  · next rest' hrest' =>
    obtain rfl := Option.some.inj (hrest.symm.trans hrest')
    split
    · next hnone => rw [hentry] at hnone; cases hnone
    · next entry' advance' hentry' =>
      obtain ⟨rfl, rfl⟩ := Prod.mk.inj (Option.some.inj (hentry.symm.trans hentry'))
      rw [if_neg (mt List.isEmpty_iff.1 hne)]

/-- An empty entry is passed over. -/
theorem readFrom?_of_nil (hplace : place < bytes.length) (hrest : sliceFrom? bytes place = some rest)
    (hentry : firstPiece? rest = some ([], advance)) :
    readFrom? bytes place = readFrom? bytes (place + advance) := by
  rw [readFrom?, dif_pos hplace]
  split
  · next hnone => rw [hrest] at hnone; cases hnone
  · next rest' hrest' =>
    obtain rfl := Option.some.inj (hrest.symm.trans hrest')
    split
    · next hnone => rw [hentry] at hnone; cases hnone
    · next entry' advance' hentry' =>
      obtain ⟨rfl, rfl⟩ := Prod.mk.inj (Option.some.inj (hentry.symm.trans hentry'))
      rfl

/-- Reads on from a place in a text. -/
def read? (output : String) (place : Nat) : Option (Option String × Nat) := do
  let (entry, place) ← readFrom? (encode output) place
  let path ← entry.mapM decode
  return (path, place)

/-! ## Reading characters -/

/-- The first entry ends in front of the first NUL. -/
theorem firstPiece?_encodeChars (cs : List Char) :
    ('\x00' ∉ cs ∧ firstPiece? (encodeChars cs) = some (encodeChars cs, (encodeChars cs).length)) ∨
      ∃ front back, cs = front ++ '\x00' :: back ∧ '\x00' ∉ front ∧
        firstPiece? (encodeChars cs) = some (encodeChars front, (encodeChars front).length + 1) := by
  rcases find?_encodeChars (List.cons_ne_nil '\x00' []) cs with ⟨hnone, hall⟩ | ⟨i, hsome, hat, hbefore⟩
  · refine Or.inl ⟨fun hmem => ?_, by rw [firstPiece?, hnone]⟩
    obtain ⟨front, back, rfl⟩ := List.append_of_mem hmem
    refine hall front.length ?_
    rw [List.drop_left]
    exact ⟨back, rfl⟩
  · obtain ⟨back, hback⟩ := hat
    have hcs : cs = cs.take i ++ '\x00' :: back := by
      calc cs = cs.take i ++ cs.drop i := (List.take_append_drop i cs).symm
        _ = cs.take i ++ '\x00' :: back := congrArg (cs.take i ++ ·) hback.symm
    refine Or.inr ⟨cs.take i, back, hcs, fun hmem => ?_, ?_⟩
    · obtain ⟨j, hj, hnul⟩ := List.getElem_of_mem hmem
      rw [List.length_take] at hj
      refine hbefore j (by omega) ?_
      rw [List.getElem_take] at hnul
      rw [List.drop_eq_getElem_cons (by omega), hnul]
      exact ⟨_, rfl⟩
    · rw [firstPiece?, hsome]
      dsimp only
      rw [sliceTo?_placeOf]
      rfl

/-- **Reading on from a character has a result**: the first of the paths that follow, and a place from which
    the others follow. The induction is on the number of characters that are left. -/
theorem readFrom?_placeOf (cs : List Char) (i : Nat) :
    ∃ j, readFrom? (encodeChars cs) (placeOf cs i) =
        some ((listedPaths (cs.drop i)).head?.map encodeChars, placeOf cs j) ∧
      listedPaths (cs.drop j) = (listedPaths (cs.drop i)).tail := by
  induction hleft : cs.length - i using Nat.strongRecOn generalizing i with
  | ind left ih =>
    by_cases hi : i < cs.length
    · have hplace : placeOf cs i < (encodeChars cs).length := by
        rw [← placeOf_length]
        exact placeOf_lt hi hi
      have hslice := sliceFrom?_placeOf cs i
      rcases firstPiece?_encodeChars (cs.drop i) with ⟨hnul, hentry⟩ | ⟨front, back, hdrop, hnul, hentry⟩
      · -- the last entry has no NUL behind it
        have hne : cs.drop i ≠ [] := mt List.drop_eq_nil_iff.1 (Nat.not_le_of_lt hi)
        have hend : placeOf cs i + (encodeChars (cs.drop i)).length = placeOf cs cs.length := by
          rw [placeOf_length, ← encodeChars_take_append_drop cs i, List.length_append, placeOf]
        refine ⟨cs.length, ?_, ?_⟩
        · rw [readFrom?_of_entry hplace hslice hentry (encodeChars_ne_nil hne), hend,
            listedPaths_of_not_mem hnul hne]
          rfl
        · rw [List.drop_length, listedPaths_of_not_mem hnul hne]
          rfl
      · have hnext : placeOf cs i + ((encodeChars front).length + 1) =
            placeOf cs (i + (front ++ ['\x00']).length) := by
          rw [placeOf_add_length (hdrop ▸ ⟨back, by simp⟩), encodeChars_append, List.length_append]
          rfl
        have hback : cs.drop (i + (front ++ ['\x00']).length) = back := by
          rw [← List.drop_drop, hdrop, List.append_cons front '\x00' back, List.drop_left]
        rw [hdrop, listedPaths_append hnul]
        by_cases hempty : front = []
        · subst hempty
          obtain ⟨j, hread, hlater⟩ := ih (cs.length - (i + 1)) (by omega) (i + 1) rfl
          refine ⟨j, ?_, ?_⟩
          · rw [readFrom?_of_nil hplace hslice hentry, hnext, ← hback]
            exact hread
          · rw [← hback]
            exact hlater
        · refine ⟨i + (front ++ ['\x00']).length, ?_, ?_⟩
          · rw [readFrom?_of_entry hplace hslice hentry (encodeChars_ne_nil hempty), hnext,
              if_neg hempty]
            rfl
          · rw [hback, if_neg hempty]
            rfl
    · have hdrop : cs.drop i = [] := List.drop_eq_nil_of_le (Nat.le_of_not_lt hi)
      refine ⟨i, ?_, ?_⟩
      · rw [readFrom?, dif_neg, hdrop]
        · rfl
        · rw [← placeOf_length]
          exact Nat.not_lt_of_le (placeOf_mono cs (Nat.le_of_not_lt hi))
      · rw [hdrop]
        rfl

/-- Reading on from a character of a text gives the first of the paths that follow. -/
theorem read?_placeOf (output : String) (i : Nat) :
    ∃ j, read? output (placeOf output.toList i) =
        some ((listedPaths (output.toList.drop i)).head?.map String.ofList,
          placeOf output.toList j) ∧
      listedPaths (output.toList.drop j) = (listedPaths (output.toList.drop i)).tail := by
  obtain ⟨j, hread, hlater⟩ := readFrom?_placeOf output.toList i
  refine ⟨j, ?_, hlater⟩
  rw [read?, encode, hread, Option.bind_eq_bind, Option.bind_some]
  dsimp only
  cases listedPaths (output.toList.drop i) with
  | nil => rfl
  | cons path more =>
      have hpath : decode (encodeChars path) = some (String.ofList path) := by
        rw [← decode_encode, encode, String.toList_ofList]
      rw [List.head?_cons, Option.map_some, Option.mapM_some, hpath]
      rfl

end Listing

/-! ## Listings -/

/-- A text of paths and how many of its bytes have been read; a character starts there, or the text ends. -/
structure Listing where
  output : String
  place : Nat
  atCharacter : ∃ i, place = placeOf output.toList i

namespace Listing

/-- A text of which nothing has been read. -/
def ofText (output : String) : Listing where
  output := output
  place := 0
  atCharacter := ⟨0, (placeOf_zero _).symm⟩

theorem isSome_read? (listing : Listing) : (read? listing.output listing.place).isSome := by
  obtain ⟨i, hi⟩ := listing.atCharacter
  obtain ⟨j, hread, -⟩ := read?_placeOf listing.output i
  rw [hi, hread]
  rfl

/-- The next path, and the listing read up to behind it; no path if none is left. -/
def next (listing : Listing) : Option String × Listing :=
  let read := (read? listing.output listing.place).get listing.isSome_read?
  (read.1,
    { output := listing.output
      place := read.2
      atCharacter := by
        obtain ⟨i, hi⟩ := listing.atCharacter
        obtain ⟨j, hread, -⟩ := read?_placeOf listing.output i
        exact ⟨j, by simp only [read, hi, hread, Option.get_some]⟩ })

/-- What `next` gives is what has been read. -/
theorem read?_eq (listing : Listing) :
    read? listing.output listing.place = some (listing.next.1, listing.next.2.place) :=
  (Option.some_get listing.isSome_read?).symm

/-- The paths that have not been read. -/
def left (listing : Listing) : List (List Char) :=
  listedPaths (decodeLossyChars ((encode listing.output).drop listing.place))

/-- The paths that follow a character. -/
theorem left_of_place (listing : Listing) {i : Nat} (hi : listing.place = placeOf listing.output.toList i) :
    listing.left = listedPaths (listing.output.toList.drop i) := by
  rw [left, hi, encode, drop_placeOf, decodeLossyChars_encodeChars]

theorem left_ofText (output : String) : (ofText output).left = listedPaths output.toList :=
  (ofText output).left_of_place (placeOf_zero _).symm

/-- The path read next is the first of those that are left, and it leaves the others. -/
theorem next_spec (listing : Listing) :
    listing.next.1 = listing.left.head?.map String.ofList ∧ listing.next.2.left = listing.left.tail := by
  obtain ⟨i, hi⟩ := listing.atCharacter
  obtain ⟨j, hread, hlater⟩ := read?_placeOf listing.output i
  rw [← hi, read?_eq] at hread
  obtain ⟨hpath, hplace⟩ := Prod.mk.inj (Option.some.inj hread)
  rw [listing.left_of_place hi, ← hlater]
  exact ⟨hpath, listing.next.2.left_of_place hplace⟩

theorem next_fst (listing : Listing) : listing.next.1 = listing.left.head?.map String.ofList :=
  listing.next_spec.1

theorem left_next (listing : Listing) : listing.next.2.left = listing.left.tail :=
  listing.next_spec.2

/-- The listing after a number of paths have been asked for. -/
def after (listing : Listing) : Nat → Listing
  | 0 => listing
  | n + 1 => (listing.after n).next.2

theorem output_after (listing : Listing) (n : Nat) : (listing.after n).output = listing.output := by
  induction n with
  | zero => rfl
  | succ n ih => exact ih

theorem left_after (listing : Listing) (n : Nat) : (listing.after n).left = listing.left.drop n := by
  induction n with
  | zero => rfl
  | succ n ih => rw [after, left_next, ih, List.tail_drop]

/-- **Asking again and again gives the paths that are left, in order, and then none for ever.** -/
theorem next_after (listing : Listing) (n : Nat) :
    (listing.after n).next.1 = (listing.left.map String.ofList)[n]? := by
  rw [next_fst, left_after, List.head?_drop, List.getElem?_map]

/-- All paths that have not been read, read one after the other until there is none. -/
def paths (listing : Listing) : List String :=
  match _h : listing.next with
  | (none, _) => []
  | (some path, later) => path :: later.paths
termination_by listing.left.length
decreasing_by
  have hfirst := listing.next_fst
  have hlater := listing.left_next
  rw [_h] at hfirst hlater
  cases hleft : listing.left with
  | nil =>
      rw [hleft] at hfirst
      cases hfirst
  | cons path more =>
      rw [hlater, hleft]
      exact Nat.lt_succ_self _

/-- **Reading to the end gives the paths that are left.** -/
theorem paths_eq (listing : Listing) : listing.paths = listing.left.map String.ofList := by
  fun_induction paths listing with
  | case1 listing later h =>
      have hfirst := listing.next_fst
      rw [h] at hfirst
      rw [List.head?_eq_none_iff.1 (Option.map_eq_none_iff.1 hfirst.symm), List.map_nil]
  | case2 listing path later h ih =>
      have hfirst := listing.next_fst
      have hlater := listing.left_next
      rw [h] at hfirst hlater
      obtain ⟨first, hhead, rfl⟩ := Option.map_eq_some_iff.1 hfirst.symm
      obtain ⟨more, hleft⟩ := List.head?_eq_some_iff.1 hhead
      rw [ih, hlater, hleft]
      rfl

end Listing

end PullRequestBot.Git
