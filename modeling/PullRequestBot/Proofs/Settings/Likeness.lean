import PullRequestBot.Proofs.Settings.Layers
import PullRequestBot.Proofs.Settings.Uniformity

set_option autoImplicit false

/-! # Trees that read alike

What is read from a tree does not depend on the order of the entries of a table, nor on how the raw value of
a setting is spelled. Trees that differ in nothing else are `Alike`. They stay so when a value is set at any
place (`Alike.set`), and assignments to places apart come out alike in either order (`alike_swap`).

What a section gives to a setting depends on that setting alone (`Uniform`), so the same settings are read
from trees that are alike, or none from either of them (`Alike.toOption_ofTree`). -/

namespace PullRequestBot.Settings

open Result (mapError_eq_ok)

/-! ## Likeness -/

namespace Tree

variable {setting : Setting} {tree tree' first second third value value' raw raw' : Tree} {key : String}
  {related : Tree → Tree → Prop}

/-- Two tables hold the same under all keys but one, and related values, or none, under that key. -/
structure AgreeBut (key : String) (related : Tree → Tree → Prop) (tree tree' : Tree) : Prop where
  others : ∀ other, other ≠ key → tree.get? other = tree'.get? other
  own : Option.Rel related (tree.get? key) (tree'.get? key)

/-- Two raw values say the same of a setting: they are the same, or leaves that are converted alike. -/
inductive SaysSame (setting : Setting) : Tree → Tree → Prop
  | refl (raw : Tree) : SaysSame setting raw raw
  | leaf {scalar scalar' : Scalar} {origin origin' : Option String}
      (converted : (setting.convert (.leaf scalar origin)).toOption =
        (setting.convert (.leaf scalar' origin')).toOption) :
      SaysSame setting (.leaf scalar origin) (.leaf scalar' origin')

/-- Two values in place of the section of a setting say the same. -/
inductive SectionsAlike (setting : Setting) : Tree → Tree → Prop
  | refl (group : Tree) : SectionsAlike setting group group
  | tables {group group' : Tree} (table : group.IsTable) (table' : group'.IsTable)
      (agree : AgreeBut setting.key (SaysSame setting) group group') : SectionsAlike setting group group'

/-- Two trees say the same of all settings, but for the spelling of one of them. -/
def Alike (setting : Setting) (tree tree' : Tree) : Prop :=
  AgreeBut setting.group.name (SectionsAlike setting) tree tree'

theorem AgreeBut.refl (hrelated : ∀ value, related value value) (tree : Tree) :
    AgreeBut key related tree tree where
  others _ _ := rfl
  own := by
    cases tree.get? key with
    | none => exact .none
    | some value => exact .some (hrelated value)

theorem AgreeBut.trans
    (hrelated : ∀ {first second third}, related first second → related second third → related first third)
    (hfirst : AgreeBut key related first second) (hsecond : AgreeBut key related second third) :
    AgreeBut key related first third where
  others other hother := (hfirst.others other hother).trans (hsecond.others other hother)
  own := by
    have hleft := hfirst.own
    have hright := hsecond.own
    generalize first.get? key = one, second.get? key = two, third.get? key = three at hleft hright
    cases hleft with
    | none => exact hright
    | some hone =>
        cases hright with
        | some htwo => exact .some (hrelated hone htwo)

/-- What is put under the same key of both tables has to be the same, or related under the one key. -/
theorem AgreeBut.put {name : String} (h : AgreeBut key related tree tree')
    (hsame : name ≠ key → value = value') (hown : name = key → related value value') :
    AgreeBut key related (tree.put name value) (tree'.put name value') where
  others other hother := by
    rw [get?_put, get?_put, h.others other hother]
    by_cases hname : other = name
    · rw [if_pos hname, if_pos hname, hsame (hname ▸ hother)]
    · rw [if_neg hname, if_neg hname]
  own := by
    rw [get?_put, get?_put]
    by_cases hname : key = name
    · rw [if_pos hname, if_pos hname]
      exact .some (hown hname.symm)
    · rw [if_neg hname, if_neg hname]
      exact h.own

theorem SaysSame.trans (hfirst : SaysSame setting first second) (hsecond : SaysSame setting second third) :
    SaysSame setting first third := by
  cases hfirst with
  | refl => exact hsecond
  | leaf hleft =>
      cases hsecond with
      | refl => exact .leaf hleft
      | leaf hright => exact .leaf (hleft.trans hright)

theorem SectionsAlike.trans (hfirst : SectionsAlike setting first second)
    (hsecond : SectionsAlike setting second third) : SectionsAlike setting first third := by
  cases hfirst with
  | refl => exact hsecond
  | tables htable htable' hleft =>
      cases hsecond with
      | refl => exact .tables htable htable' hleft
      | tables _ htable'' hright => exact .tables htable htable'' (hleft.trans SaysSame.trans hright)

theorem Alike.refl (setting : Setting) (tree : Tree) : Alike setting tree tree :=
  AgreeBut.refl .refl tree

theorem Alike.trans (hfirst : Alike setting first second) (hsecond : Alike setting second third) :
    Alike setting first third :=
  AgreeBut.trans SectionsAlike.trans hfirst hsecond

theorem AgreeBut.symm (hrelated : ∀ {first second}, related first second → related second first)
    (h : AgreeBut key related tree tree') : AgreeBut key related tree' tree where
  others other hother := (h.others other hother).symm
  own := by
    have hown := h.own
    generalize tree.get? key = value, tree'.get? key = value' at hown
    cases hown with
    | none => exact .none
    | some hvalue => exact .some (hrelated hvalue)

theorem SaysSame.symm (h : SaysSame setting raw raw') : SaysSame setting raw' raw := by
  cases h with
  | refl => exact .refl _
  | leaf hconverted => exact .leaf hconverted.symm

theorem SectionsAlike.symm (h : SectionsAlike setting tree tree') : SectionsAlike setting tree' tree := by
  cases h with
  | refl => exact .refl _
  | tables htable htable' hagree => exact .tables htable' htable (hagree.symm SaysSame.symm)

theorem Alike.symm (h : Alike setting tree tree') : Alike setting tree' tree :=
  AgreeBut.symm SectionsAlike.symm h

/-- What stands under the one key, where nothing stands for no value. -/
theorem AgreeBut.getD_own (hrelated : ∀ value, related value value) (h : AgreeBut key related tree tree') :
    related ((tree.get? key).getD nothing) ((tree'.get? key).getD nothing) := by
  have hown := h.own
  generalize tree.get? key = value, tree'.get? key = value' at hown
  cases hown with
  | none => exact hrelated nothing
  | some hvalue => exact hvalue

/-! ## Setting values -/

/-- A leaf leaves no trace when a value is set at its place or below. -/
theorem setAt_leaf (value : Tree) (steps : List Step) (scalar scalar' : Scalar)
    (origin origin' : Option String) :
    setAt value steps (.leaf scalar origin) = setAt value steps (.leaf scalar' origin') := by
  cases steps with
  | nil =>
      cases value with
      | leaf _ _ | array _ _ | table _ _ => rfl
  | cons step rest =>
      cases step with
      | key _ | index _ => rfl

theorem SaysSame.setAt (h : SaysSame setting raw raw') (value : Tree) (steps : List Step) :
    SaysSame setting (Tree.setAt value steps raw) (Tree.setAt value steps raw') := by
  cases h with
  | refl => exact .refl _
  | leaf _ =>
      rw [setAt_leaf]
      exact .refl _

theorem AgreeBut.mergeEntries (h : AgreeBut setting.key (SaysSame setting) tree tree')
    (entries : List (String × Tree)) :
    AgreeBut setting.key (SaysSame setting) (Tree.mergeEntries entries tree)
      (Tree.mergeEntries entries tree') := by
  induction entries generalizing tree tree' with
  | nil => exact h
  | cons entry rest ih =>
      obtain ⟨name, value⟩ := entry
      rw [Tree.mergeEntries, Tree.mergeEntries]
      refine ih (h.put (fun hname => ?_) ?_)
      · rw [h.others name hname]
      · rintro rfl
        exact (h.getD_own .refl).setAt value []

/-- Tables that agree still do so when a value is set at their place or below. -/
theorem SectionsAlike.setAt (h : SectionsAlike setting tree tree') (value : Tree) (steps : List Step) :
    SectionsAlike setting (Tree.setAt value steps tree) (Tree.setAt value steps tree') := by
  cases h with
  | refl => exact .refl _
  | tables htable htable' hagree =>
      cases tree with
      | leaf _ _ | array _ _ => exact htable.elim
      | table entries origin =>
      cases tree' with
      | leaf _ _ | array _ _ => exact htable'.elim
      | table entries' origin' =>
      cases steps with
      | nil =>
          cases value with
          | leaf _ _ | array _ _ => exact .refl _
          | table new _ =>
              exact .tables (htable.mergeEntries new) (htable'.mergeEntries new) (hagree.mergeEntries new)
      | cons step rest =>
          cases step with
          | index number => exact .refl _
          | key name =>
              refine .tables (isTable_put _ _ _) (isTable_put _ _ _) (hagree.put (fun hname => ?_) ?_)
              · rw [hagree.others name hname]
              · rintro rfl
                exact (hagree.getD_own .refl).setAt value rest

/-- Trees stay alike when a value is set, wherever it is. -/
theorem Alike.set (h : Alike setting tree tree') (path : KeyPath) (value : Tree) :
    Alike setting (tree.set path value) (tree'.set path value) := by
  refine AgreeBut.put h (fun hroot => ?_) ?_
  · rw [h.others _ hroot]
  · intro hroot
    rw [hroot]
    exact (h.getD_own .refl).setAt value path.steps

theorem Alike.setAll (h : Alike setting tree tree') (assignments : List (KeyPath × Tree)) :
    Alike setting (Tree.setAll assignments tree) (Tree.setAll assignments tree') := by
  induction assignments generalizing tree tree' with
  | nil => exact h
  | cons assignment rest ih => exact ih (h.set assignment.1 assignment.2)

/-! ## The place of a setting -/

/-- Raw values that say the same of a setting are set at its place. -/
theorem alike_set_path {scalar scalar' : Scalar} {origin origin' : Option String}
    (h : (setting.convert (.leaf scalar origin)).toOption =
      (setting.convert (.leaf scalar' origin')).toOption) (tree : Tree) :
    Alike setting (tree.set setting.path (.leaf scalar origin))
      (tree.set setting.path (.leaf scalar' origin')) := by
  refine (Alike.refl setting tree).put (absurd rfl) fun _ => ?_
  refine .tables (isTable_put _ _ _) (isTable_put _ _ _) ?_
  exact (AgreeBut.refl .refl _).put (absurd rfl) fun _ => .leaf h

theorem AgreeBut.of_get?_eq (hrelated : ∀ value, related value value)
    (h : ∀ name, tree.get? name = tree'.get? name) : AgreeBut key related tree tree' where
  others name _ := h name
  own := by
    rw [h]
    exact (AgreeBut.refl hrelated tree').own

/-- It does not matter which of two assignments apart comes first. -/
theorem alike_swap {path : KeyPath} (hpath : path.IsApart setting) (tree value : Tree) (scalar : Scalar)
    (origin : Option String) :
    Alike setting ((tree.set setting.path (.leaf scalar origin)).set path value)
      ((tree.set path value).set setting.path (.leaf scalar origin)) := by
  rcases hpath.cases with hroot | ⟨name, rest, rfl, hname⟩
  · refine AgreeBut.of_get?_eq .refl fun other => ?_
    have hroot' : setting.path.root ≠ path.root := Ne.symm hroot
    by_cases hother : other = path.root
    · simp [get?_set, hother, hroot'.symm]
    · simp [get?_set, hother, hroot']
  · -- both are set in the section, under different keys of it
    have hleft : ∀ old : Tree, Tree.setAt (.leaf scalar origin) setting.path.steps old =
        old.put setting.key (.leaf scalar origin) := fun _ => rfl
    have hright : ∀ old : Tree, Tree.setAt value (.key name :: rest) old =
        old.put name (Tree.setAt value rest ((old.get? name).getD nothing)) := fun _ => rfl
    refine ⟨fun other hother => ?_, ?_⟩
    · have hroot : other ≠ setting.path.root := hother
      simp [get?_set, hother, hroot]
    · have hroot : setting.path.root = setting.group.name := rfl
      simp only [get?_set, hroot, if_true, Option.getD_some, hleft, hright]
      refine .some (.tables (isTable_put _ _ _) (isTable_put _ _ _) ?_)
      refine AgreeBut.of_get?_eq .refl fun other => ?_
      by_cases hother : other = name
      · subst hother
        simp [get?_put, hname]
      · simp [get?_put, hother]

/-- An assignment to a setting may be carried out after others that are apart from it. -/
theorem alike_setAll_set {assignments : List (KeyPath × Tree)}
    (h : ∀ assignment ∈ assignments, assignment.1.IsApart setting) (tree : Tree) (scalar : Scalar)
    (origin : Option String) :
    Alike setting (setAll assignments (tree.set setting.path (.leaf scalar origin)))
      ((setAll assignments tree).set setting.path (.leaf scalar origin)) := by
  induction assignments generalizing tree with
  | nil => exact Alike.refl setting _
  | cons assignment rest ih =>
      -- the first assignment changes places with the setting, and the rest is carried out after both
      obtain ⟨hassignment, hrest⟩ := List.forall_mem_cons.1 h
      exact ((alike_swap hassignment tree assignment.2 scalar origin).setAll rest).trans (ih hrest _)

/-- A setting may be set in front of assignments that are apart from it, and to whatever says the same of
    it. -/
theorem alike_setAll_of_apart {first : List (KeyPath × Tree)} {scalar scalar' : Scalar}
    {origin origin' : Option String} (hfirst : ∀ assignment ∈ first, assignment.1.IsApart setting)
    (hsame : (setting.convert (.leaf scalar origin)).toOption =
      (setting.convert (.leaf scalar' origin')).toOption) (last : List (KeyPath × Tree)) (tree : Tree) :
    Alike setting (Tree.setAll (first ++ (setting.path, .leaf scalar origin) :: last) tree)
      (Tree.setAll (first ++ last) (tree.set setting.path (.leaf scalar' origin'))) := by
  rw [setAll_append, setAll_append]
  have hmoved := (alike_setAll_set hfirst tree scalar' origin').symm
  exact ((alike_set_path hsame (Tree.setAll first tree)).trans hmoved).setAll last

/-! ## Reading -/

theorem SaysSame.convert_eq_ok (h : SaysSame setting raw raw') {converted : setting.Value}
    (hraw : setting.convert raw = .ok converted) : setting.convert raw' = .ok converted := by
  cases h with
  | refl => exact hraw
  | leaf hconverted =>
      rw [hraw] at hconverted
      exact Result.toOption_eq_some.1 hconverted.symm

/-- What the two tables hold under a key: the same, or related values if it is the one key. -/
theorem AgreeBut.get? (h : AgreeBut key related tree tree') (name : String) :
    Option.Rel (fun value value' => value = value' ∨ name = key ∧ related value value')
      (tree.get? name) (tree'.get? name) := by
  by_cases hname : name = key
  · subst hname
    have hown := h.own
    generalize tree.get? name = value, tree'.get? name = value' at hown
    cases hown with
    | none => exact .none
    | some hvalue => exact .some (Or.inr ⟨rfl, hvalue⟩)
  · rw [h.others name hname]
    cases tree'.get? name with
    | none => exact .none
    | some value => exact .some (Or.inl rfl)

theorem AgreeBut.exists_get? (h : AgreeBut key related tree tree') {name : String}
    (hvalue : tree'.get? name = some value') :
    ∃ value, tree.get? name = some value ∧ (value = value' ∨ name = key ∧ related value value') := by
  have hname := h.get? name
  rw [hvalue] at hname
  generalize tree.get? name = found at hname
  cases hname with
  | some hvalue => exact ⟨_, rfl, hvalue⟩

variable {settings settings' : Settings} {group : Section}

/-- A section that says the same of a setting is read as well. -/
theorem SectionsAlike.assignSection_ok (h : SectionsAlike setting tree tree') (htree : tree.Keyed)
    (htree' : tree'.Keyed) {before after : Settings}
    (hread : before.assignSection setting.group tree = .ok after) :
    ∃ after, before.assignSection setting.group tree' = .ok after := by
  cases h with
  | refl => exact ⟨after, hread⟩
  | tables htable htable' hagree =>
      cases tree with
      | leaf _ _ | array _ _ => exact htable.elim
      | table entries origin =>
      cases tree' with
      | leaf _ _ | array _ _ => exact htable'.elim
      | table entries' origin' =>
      refine ((uniform_assignKey setting.group).foldlM_ok_iff before).2 fun entry hentry => ?_
      obtain ⟨key, raw'⟩ := entry
      obtain ⟨raw, hfound, hraw⟩ := hagree.exists_get? (htree'.get?_eq_some_iff.2 hentry)
      obtain ⟨other, hgroup, rfl, value, hconvert⟩ := assignKey_ok_iff.1 <|
        ((uniform_assignKey setting.group).foldlM_ok_iff before).1 ⟨after, hread⟩ _
          (htree.get?_eq_some_iff.1 hfound)
      refine assignKey_ok_iff.2 ⟨other, hgroup, rfl, ?_⟩
      rcases hraw with rfl | ⟨hkey, hsame⟩
      · exact ⟨value, hconvert⟩
      · obtain rfl := Setting.eq_of_key hgroup hkey
        exact ⟨value, hsame.convert_eq_ok hconvert⟩

/-- What a section that says the same makes of a setting is the same. -/
theorem SectionsAlike.value_eq (h : SectionsAlike setting tree tree') (htree : tree.Keyed)
    (htree' : tree'.Keyed) {before before' after after' : Settings} {other : Setting}
    (hgroup : other.group = setting.group)
    (hread : before.assignSection setting.group tree = .ok after)
    (hread' : before'.assignSection setting.group tree' = .ok after')
    (hbefore : before.value other = before'.value other) : after.value other = after'.value other := by
  cases h with
  | refl =>
      obtain ⟨reached, hreached, hvalues⟩ := uniform_assignSection _ _ _ _ before' hread
      obtain rfl := Except.ok.inj (hreached.symm.trans hread')
      exact hvalues other hbefore
  | tables htable htable' hagree =>
      have htakes := takes_assignSection htree htable hread hgroup
      have htakes' := takes_assignSection htree' htable' hread' hgroup
      by_cases hkey : other.key = setting.key
      · obtain rfl := Setting.eq_of_key hgroup hkey
        have hown := hagree.own
        generalize tree.get? other.key = raw, tree'.get? other.key = raw' at htakes htakes' hown
        cases hown with
        | none => exact htakes.trans (hbefore.trans htakes'.symm)
        | some hsame => exact Except.ok.inj ((hsame.convert_eq_ok htakes).symm.trans htakes')
      · rw [hagree.others _ hkey] at htakes
        cases hraw : tree'.get? other.key with
        | none =>
            rw [hraw] at htakes htakes'
            exact htakes.trans (hbefore.trans htakes'.symm)
        | some raw =>
            rw [hraw] at htakes htakes'
            exact Except.ok.inj (htakes.symm.trans htakes')

/-- Settings that are read from a tree are read from a tree that is alike. -/
theorem Alike.ofTree_eq_ok (h : Alike setting tree tree') (htree : tree.Keyed) (htree' : tree'.Keyed)
    (hread : ofTree tree = .ok settings) : ofTree tree' = .ok settings := by
  -- each section of the other tree has its like in the first one, and is read because that one is
  obtain ⟨settings', hread'⟩ : ∃ settings', ofTree tree' = .ok settings' := by
    refine (uniform_assignTop.foldlM_ok_iff {}).2 fun entry hentry => ?_
    obtain ⟨root, group'⟩ := entry
    have hfound' := htree'.get?_eq_some_iff.2 hentry
    obtain ⟨group, hfound, hgroup⟩ := h.exists_get? hfound'
    obtain ⟨after, hafter⟩ := (uniform_assignTop.foldlM_ok_iff {}).1 ⟨settings, hread⟩ _
      (htree.get?_eq_some_iff.1 hfound)
    rcases hgroup with rfl | ⟨hroot, halike⟩
    · exact ⟨after, hafter⟩
    · obtain ⟨named, rfl, hsection⟩ := assignTop_eq_ok hafter
      obtain rfl := Section.eq_of_name hroot
      obtain ⟨reached, hreached⟩ :=
        halike.assignSection_ok (htree.get? hfound) (htree'.get? hfound') hsection
      refine ⟨reached, ?_⟩
      rw [assignTop_name, mapError_eq_ok, hreached]
  -- what a section and its like make of a setting is the same, whatever was read before them
  have hvalues : settings = settings' := by
    refine ext_value fun other => ?_
    have htakes : TakesSection other (tree.get? other.group.name) {} settings :=
      takesSection_assignTops htree.distinct hread
    have htakes' : TakesSection other (tree'.get? other.group.name) {} settings' :=
      takesSection_assignTops htree'.distinct hread'
    have hgroup := h.get? other.group.name
    generalize hfound : tree.get? other.group.name = found at htakes hgroup
    generalize hfound' : tree'.get? other.group.name = found' at htakes' hgroup
    cases hgroup with
    | none => exact htakes.trans htakes'.symm
    | @some group group' hgroup =>
        have hkeyed := htree.get? hfound
        have hkeyed' := htree'.get? hfound'
        obtain ⟨middle, reached, hmiddle, hsection, hafter⟩ := htakes
        obtain ⟨middle', reached', hmiddle', hsection', hafter'⟩ := htakes'
        have hbefore := hmiddle.trans hmiddle'.symm
        rw [hafter, hafter']
        rcases hgroup with rfl | ⟨hroot, halike⟩
        · have halike : SectionsAlike other group group := .refl group
          exact halike.value_eq hkeyed hkeyed' rfl hsection hsection' hbefore
        · have hsame := Section.eq_of_name hroot
          rw [hsame] at hsection hsection'
          exact halike.value_eq hkeyed hkeyed' hsame hsection hsection' hbefore
  rw [hread', hvalues]

/-- **The same is read from trees that are alike**: the same settings from both of them, or none. -/
theorem Alike.toOption_ofTree (h : Alike setting tree tree') (htree : tree.Keyed) (htree' : tree'.Keyed) :
    (ofTree tree).toOption = (ofTree tree').toOption := by
  refine Option.ext fun settings => ?_
  rw [Result.toOption_eq_some, Result.toOption_eq_some]
  exact ⟨h.ofTree_eq_ok htree htree', h.symm.ofTree_eq_ok htree' htree⟩

end Tree

end PullRequestBot.Settings
