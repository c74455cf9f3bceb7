import Mathlib.Data.List.Induction
import Mathlib.Data.List.Nodup
import Intake.Proofs.Rule.Words

/-!
# Texts of stages

An accepted rule is a sequence of stages with blanks anywhere between them (`Staged`), and its
result consists of these stages added one after the other (`readStages_eq_ok_iff`). So rules written
one behind the other are read as one, and the stages of the second are merged into those of the
first (`Stages.addAll_eq_merge`).

The text between the parentheses of a stage is found without a look at what comes behind the group
(`groupFrom_local`), which is why a sequence of stages may be followed by another one. Stages of one
name are one stage with the directives of all of them, in their order (`Stages.directives_add`), and
the names stand in the order of their first stages (`Stages.map_fst_add`).
-/

namespace Intake.Rule

open Intake.Text

/-! ### Groups -/

/-- Behind an opening parenthesis, the group ends with the parenthesis behind this text, whatever
    follows. -/
def IsGroup (body : List Char) : Prop :=
  ∀ text behind, group text (body ++ ')' :: behind) = .ok (body, behind)

/-- The end of a group does not depend on what follows, nor on the text the errors show. -/
theorem groupFrom_local {text : List Char} {scan : Scan} {rest body behind : List Char}
    (h : groupFrom text scan rest = .ok (body, behind)) (text' behind' : List Char) :
    groupFrom text' scan (body ++ ')' :: behind') = .ok (body, behind') := by
  induction rest generalizing scan body behind with
  | nil => cases h
  | cons c rest ih =>
    rcases groupFrom_cases h with ⟨rfl, rfl, rfl, rfl⟩ | ⟨scan', more, hgoes, hstep, hmore, rfl⟩
    · rfl
    · exact groupFrom_step hstep hgoes (ih hmore)

/-- What a group is found to be. -/
theorem group_eq_ok {text rest body behind : List Char} (h : group text rest = .ok (body, behind)) :
    IsGroup body ∧ rest = body ++ ')' :: behind :=
  ⟨fun text' behind' => groupFrom_local h text' behind', groupFrom_eq h⟩

/-! ### Sequences of stages -/

/-- A stage is read and added to those before it. -/
theorem readStagesFrom_stage {name gap opened body behind : List Char} {ds : List Directive}
    {text : List Char} (hname : isIdentifier name = true) (hgap : allBlank gap = true)
    (hgroup : group text opened = .ok (body, behind))
    (hread : readDirectives "=".toList body = .ok ds) (hds : ds.isEmpty = false) (fuel : Nat)
    (stages : Stages) :
    readStagesFrom text (fuel + 1) stages (name ++ (gap ++ '(' :: opened)) =
      readStagesFrom text fuel (stages.add (String.ofList name) ds) behind := by
  obtain ⟨c, n, hcons : name = c :: n, hc, -⟩ := Form.Name.cases ⟨name, hname⟩
  have hblank : isBlank c = false := (Form.of_isNameTail (isNameTail_of_isNameHead hc)).2.1
  have htake : (name ++ (gap ++ '(' :: opened)).takeWhile isNameTail = name :=
    Form.Name.takeWhile_append ⟨name, hname⟩ hgap opened
  have hopen : ((name ++ (gap ++ '(' :: opened)).drop name.length).dropWhile isBlank =
      '(' :: opened := by
    rw [List.drop_left, List.dropWhile_append_of_pos (List.all_eq_true.mp hgap)]
    rfl
  obtain ⟨more, hmore⟩ : ∃ more, name ++ (gap ++ '(' :: opened) = c :: more :=
    ⟨_, by rw [hcons]; rfl⟩
  rw [hmore] at htake hopen ⊢
  rw [readStagesFrom]
  simp only [hblank, htake, hopen, hname, hgroup, Except.mapError, bind, Except.bind, hread, hds]
  rfl

/-- The text is a sequence of stages, with blanks in front of any of them and at the end, and these
    are the stages in the order in which they are written. -/
inductive Staged : List Char → List Stage → Prop
  | nil : Staged [] []
  | blank {c : Char} {rest : List Char} {ss : List Stage} :
    isBlank c = true → Staged rest ss → Staged (c :: rest) ss
  | stage {name gap body behind : List Char} {ds : List Directive} {ss : List Stage} :
    isIdentifier name = true → allBlank gap = true → IsGroup body →
    readDirectives "=".toList body = .ok ds → ds.isEmpty = false → Staged behind ss →
    Staged (name ++ (gap ++ '(' :: (body ++ ')' :: behind))) ((String.ofList name, ds) :: ss)

/-- The stages with further ones added one after the other. -/
def Stages.addAll (stages : Stages) (ss : List Stage) : Stages :=
  ss.foldl (fun stages s => stages.add s.1 s.2) stages

namespace Staged

theorem of_blank {w : List Char} (hw : allBlank w = true) : Staged w [] := by
  induction w with
  | nil => exact .nil
  | cons c w ih =>
    rw [allBlank, List.all_cons, Bool.and_eq_true] at hw
    exact .blank hw.1 (ih hw.2)

theorem append {s t : List Char} {as bs : List Stage} (hs : Staged s as) (ht : Staged t bs) :
    Staged (s ++ t) (as ++ bs) := by
  induction hs with
  | nil => exact ht
  | blank hc _ ih => exact .blank hc ih
  | stage hname hgap hbody hread hds _ ih =>
    simp only [List.append_assoc, List.cons_append]
    exact .stage hname hgap hbody hread hds ih

/-- A sequence of stages is read as its stages. -/
theorem reads {s : List Char} {ss : List Stage} (hs : Staged s ss) (text : List Char) {fuel : Nat}
    (hfuel : s.length ≤ fuel) (stages : Stages) :
    readStagesFrom text fuel stages s = .ok (stages.addAll ss) := by
  induction hs generalizing fuel stages with
  | nil => cases fuel <;> rfl
  | @blank c rest ss hc _ ih =>
    rw [List.length_cons] at hfuel
    obtain ⟨fuel, rfl⟩ : ∃ n, fuel = n + 1 := ⟨fuel - 1, by omega⟩
    rw [readStagesFrom, if_pos hc]
    exact ih (by omega) stages
  | @stage name gap body behind ds ss hname hgap hbody hread hds _ ih =>
    simp only [List.length_append, List.length_cons] at hfuel
    obtain ⟨fuel, rfl⟩ : ∃ n, fuel = n + 1 := ⟨fuel - 1, by omega⟩
    rw [readStagesFrom_stage hname hgap (hbody text behind) hread hds]
    exact ih (by omega) _

end Staged

/-- A name, blanks and what stands behind them make up a text. -/
theorem exists_gap {rest opened : List Char}
    (h : (rest.drop (rest.takeWhile isNameTail).length).dropWhile isBlank = opened) :
    ∃ gap, allBlank gap = true ∧ rest = rest.takeWhile isNameTail ++ (gap ++ opened) := by
  let behind := rest.drop (rest.takeWhile isNameTail).length
  refine ⟨behind.takeWhile isBlank, List.all_takeWhile, ?_⟩
  rw [← h, List.takeWhile_append_dropWhile]
  exact (List.prefix_iff_eq_append.mp (List.takeWhile_prefix isNameTail)).symm

/-- What is read as stages is a sequence of stages. -/
theorem staged_of_readStagesFrom {text : List Char} {fuel : Nat} {stages out : Stages}
    {rest : List Char} (hfuel : rest.length ≤ fuel)
    (h : readStagesFrom text fuel stages rest = .ok out) :
    ∃ ss, Staged rest ss ∧ out = stages.addAll ss := by
  induction fuel generalizing stages rest with
  | zero =>
    obtain rfl : rest = [] := List.length_eq_zero_iff.mp (by omega)
    cases h
    exact ⟨[], .nil, rfl⟩
  | succ fuel ih =>
    rw [readStagesFrom.eq_def] at h
    dsimp only at h
    split at h
    · cases h
      exact ⟨[], .nil, rfl⟩
    · next c behind =>
      rw [List.length_cons] at hfuel
      split at h
      · next hc =>
        obtain ⟨ss, hss, rfl⟩ := ih (by omega) h
        exact ⟨ss, .blank hc hss, rfl⟩
      · split at h
        · next opened hname hopened =>
          obtain ⟨⟨body, after⟩, hgroup, h⟩ := bind_eq_ok.mp h
          obtain ⟨hbody, heq⟩ := group_eq_ok (mapError_eq_ok.mp hgroup)
          obtain ⟨ds, hread, h⟩ := bind_eq_ok.mp h
          split at h
          · cases h
          · next hds =>
            obtain ⟨gap, hgap, hrest⟩ := exists_gap hopened
            rw [heq] at hrest
            have hlength := congrArg List.length hrest
            simp only [List.length_append, List.length_cons] at hlength
            obtain ⟨ss, hss, rfl⟩ := ih (by dsimp only; omega) h
            have hstage := Staged.stage hname hgap hbody hread (Bool.eq_false_iff.mpr hds) hss
            rw [← hrest] at hstage
            exact ⟨_, hstage, rfl⟩
        · cases h

/-- Accepted are the sequences of stages that are not blank, with their stages added up. -/
theorem readStages_eq_ok_iff {s : List Char} {out : Stages} :
    readStages s = .ok out ↔ trim s ≠ [] ∧ ∃ ss, Staged (trim s) ss ∧ out = Stages.addAll [] ss := by
  rw [readStages]
  split
  · next hempty =>
    exact ⟨nofun, fun h => absurd (List.isEmpty_iff.mp hempty) h.1⟩
  · next hempty =>
    refine ⟨fun h => ⟨fun hnil => hempty (List.isEmpty_iff.mpr hnil),
      staged_of_readStagesFrom (Nat.le_succ _) h⟩, ?_⟩
    rintro ⟨-, ss, hss, rfl⟩
    exact hss.reads _ (Nat.le_succ _) []

/-! ### Merging -/

namespace Stages

theorem directives_cons (name m : String) (ds : List Directive) (stages : Stages) :
    directives ((name, ds) :: stages) m =
      if m == name then ds else stages.directives m := by
  rw [directives, List.lookup_cons]
  cases m == name <;> rfl

/-- Directives are added to the stage of their name. -/
theorem directives_add (stages : Stages) (name m : String) (ds : List Directive) :
    (stages.add name ds).directives m =
      stages.directives m ++ if name == m then ds else [] := by
  induction stages with
  | nil =>
    rw [add, directives_cons, BEq.comm]
    rfl
  | cons stage stages ih =>
    obtain ⟨n, ds'⟩ := stage
    rw [add]
    by_cases hn : n = name
    · subst hn
      rw [if_pos (beq_self_eq_true n), directives_cons, directives_cons, BEq.comm (a := n)]
      cases m == n <;> simp
    · rw [if_neg (by simpa using hn), directives_cons, directives_cons, ih]
      by_cases hm : m = n
      · subst hm
        simp [Ne.symm hn]
      · simp [hm]

/-- A name is added behind the others, unless it is one of them. -/
theorem map_fst_add (stages : Stages) (name : String) (ds : List Directive) :
    (stages.add name ds).map Prod.fst =
      if (stages.map Prod.fst).contains name then stages.map Prod.fst
      else stages.map Prod.fst ++ [name] := by
  induction stages with
  | nil => rfl
  | cons stage stages ih =>
    obtain ⟨n, ds'⟩ := stage
    rw [add]
    by_cases hn : n = name
    · subst hn
      simp
    · rw [if_neg (by simpa using hn), List.map_cons, ih, List.map_cons, List.contains_cons,
        beq_eq_false_iff_ne.mpr (Ne.symm hn), Bool.false_or]
      split <;> rfl

/-- The stages of both in one: those of the first in their order, with the directives of the second
    behind their own, and then the further stages of the second. -/
def merge (a b : Stages) : Stages :=
  a.map (fun s => (s.1, s.2 ++ b.directives s.1)) ++
    b.filter fun s => !(a.map Prod.fst).contains s.1

variable {a b : Stages} {name : String}

theorem nodup_add (ds : List Directive) (h : (a.map Prod.fst).Nodup) :
    ((a.add name ds).map Prod.fst).Nodup := by
  rw [map_fst_add]
  split
  · exact h
  · next hnew =>
    refine h.append (List.nodup_singleton name) fun n hn hn' => hnew ?_
    rw [← List.mem_singleton.mp hn']
    exact List.contains_iff_mem.mpr hn

theorem nodup_addAll (ss : List Stage) (h : (a.map Prod.fst).Nodup) :
    ((a.addAll ss).map Prod.fst).Nodup := by
  induction ss generalizing a with
  | nil => exact h
  | cons s ss ih => exact ih (nodup_add s.2 h)

/-- Where a name is among others, which are distinct, directives are added to its stage. -/
theorem add_of_mem (ds : List Directive) (hnodup : (a.map Prod.fst).Nodup)
    (h : name ∈ a.map Prod.fst) :
    a.add name ds = a.map fun s => (s.1, s.2 ++ if name == s.1 then ds else []) := by
  induction a with
  | nil => cases h
  | cons s a ih =>
    rw [List.map_cons, List.nodup_cons] at hnodup
    rw [add, List.map_cons]
    by_cases hs : s.1 = name
    · subst hs
      have hrest : a.map (fun t => (t.1, t.2 ++ if s.1 == t.1 then ds else [])) = a := by
        refine (List.map_congr_left fun t ht => ?_).trans (List.map_id a)
        have hne : s.1 ≠ t.1 := fun heq => hnodup.1 (heq ▸ List.mem_map_of_mem ht)
        simp [hne]
      rw [if_pos (beq_self_eq_true _), hrest, if_pos (beq_self_eq_true _)]
    · have hmem : name ∈ a.map Prod.fst := by
        rcases List.mem_cons.mp h with heq | hmem
        · exact absurd heq.symm hs
        · exact hmem
      have hname : (name == s.1) = false := beq_eq_false_iff_ne.mpr (Ne.symm hs)
      rw [if_neg (by simpa using hs), ih hnodup.2 hmem, hname, if_neg Bool.false_ne_true,
        List.append_nil]

theorem add_append_of_mem (ds : List Directive) (h : name ∈ a.map Prod.fst) :
    add name ds (a ++ b) = a.add name ds ++ b := by
  induction a with
  | nil => cases h
  | cons s a ih =>
    rw [List.cons_append, add, add]
    split
    · rfl
    · next hs =>
      have hmem : name ∈ a.map Prod.fst := by
        rcases List.mem_cons.mp h with heq | hmem
        · exact absurd (beq_iff_eq.mpr heq.symm) hs
        · exact hmem
      rw [ih hmem, List.cons_append]

theorem add_append_of_not_mem (ds : List Directive) (h : name ∉ a.map Prod.fst) :
    add name ds (a ++ b) = a ++ b.add name ds := by
  induction a with
  | nil => rfl
  | cons s a ih =>
    rw [List.map_cons, List.mem_cons, not_or] at h
    have hs : ¬(s.1 == name) = true := by simpa using Ne.symm h.1
    rw [List.cons_append, add, if_neg hs, ih h.2, List.cons_append]

theorem filter_add (a : Stages) (name : String) (ds : List Directive) (p : String → Bool) :
    (a.add name ds).filter (fun s => p s.1) =
      if p name then add name ds (a.filter fun s => p s.1) else a.filter fun s => p s.1 := by
  induction a with
  | nil => cases hp : p name <;> simp [add, hp]
  | cons s a ih =>
    rw [add]
    by_cases hs : s.1 = name
    · subst hs
      cases hp : p s.1 <;> simp [add, hp]
    · rw [if_neg (by simpa using hs), List.filter_cons, List.filter_cons, ih]
      cases hp : p s.1 <;> cases hname : p name <;> simp [add, hs]

/-- Directives added to the second stages are added to the merged ones. -/
theorem merge_add (ds : List Directive) (hnodup : (a.map Prod.fst).Nodup) :
    a.merge (b.add name ds) = (a.merge b).add name ds := by
  have hmerged : (a.map fun s => (s.1, s.2 ++ b.directives s.1)).map Prod.fst = a.map Prod.fst := by
    simp [Function.comp_def]
  have hfilter := filter_add b name ds fun n => !(a.map Prod.fst).contains n
  rw [merge, merge, hfilter]
  by_cases hmem : name ∈ a.map Prod.fst
  · -- the stage is one of the first
    have hadd := add_of_mem ds (hmerged.symm ▸ hnodup) (hmerged.symm ▸ hmem)
    rw [if_neg (by simpa using hmem), add_append_of_mem ds (hmerged.symm ▸ hmem), hadd,
      List.map_map]
    simp [Function.comp_def, directives_add]
  · have hsame : a.map (fun s => (s.1, s.2 ++ (b.add name ds).directives s.1)) =
        a.map fun s => (s.1, s.2 ++ b.directives s.1) := by
      refine List.map_congr_left fun s hs => ?_
      have hne : name ≠ s.1 := fun heq => hmem (heq ▸ List.mem_map_of_mem hs)
      simp [directives_add, hne]
    rw [if_pos (by simpa using hmem), add_append_of_not_mem ds (hmerged ▸ hmem), hsame]

/-- Stages added one after the other are merged. -/
theorem addAll_eq_merge (ss : List Stage) (hnodup : (a.map Prod.fst).Nodup) :
    a.addAll ss = a.merge (addAll [] ss) := by
  induction ss using List.reverseRecOn with
  | nil => simp [addAll, merge, directives]
  | append_singleton ss s ih =>
    rw [addAll, addAll, List.foldl_append, List.foldl_append]
    exact (congrArg (add s.1 s.2) ih).trans (merge_add s.2 hnodup).symm

end Stages

end Intake.Rule
