import Intake.Domain.Clause
import Intake.Proofs.Rule.Stages

/-!
# Texts written one behind the other

Rules may be written in parts: two rules one behind the other, with blanks between them or not, are
read as the first with the second merged into it (`readStages_append`), and two texts of clauses
with the separator of clauses between them as the clauses of both (`Domain.readClauses_append`). No
quote, bracket or part of a separator of the first text reaches into the second.

A rule that is accepted ends outside of brackets and quotes with a closing parenthesis, and a clause
with a closing bracket (`Domain.getLast?_of_readClause`). A colon at the end of the first text would
make up a separator with one of those behind it; no clause ends so (`Domain.getLast?_of_piece`).
-/

namespace Intake.Rule

open Intake.Text

/-- Rules one behind the other are merged. -/
theorem readStages_append {s t w : List Char} {a b : Stages} (hw : allBlank w = true)
    (hs : readStages s = .ok a) (ht : readStages t = .ok b) :
    readStages (s ++ w ++ t) = .ok (a.merge b) := by
  obtain ⟨hsne, as, has, rfl⟩ := readStages_eq_ok_iff.mp hs
  obtain ⟨htne, bs, hbs, rfl⟩ := readStages_eq_ok_iff.mp ht
  obtain ⟨before, gap, hbefore, hgap, hsplit⟩ := exists_trim s
  obtain ⟨gap', behind, hgap', hbehind, hsplit'⟩ := exists_trim t
  have hblank : allBlank (gap ++ w ++ gap') = true := by
    simp only [allBlank, List.all_append, Bool.and_eq_true] at hgap hw hgap' ⊢
    exact ⟨⟨hgap, hw⟩, hgap'⟩
  have htext : s ++ w ++ t = before ++ (trim s ++ (gap ++ w ++ gap') ++ trim t) ++ behind := by
    conv_lhs => rw [hsplit, hsplit']
    simp only [List.append_assoc]
  have htrim : trim (s ++ w ++ t) = trim s ++ (gap ++ w ++ gap') ++ trim t := by
    rw [htext, trim_pad hbefore hbehind]
    refine trim_eq_self (fun c hc => ?_) fun c hc => ?_
    · rw [List.append_assoc, List.head?_append_of_ne_nil _ hsne] at hc
      exact isBlank_of_head?_trim hc
    · rw [List.getLast?_append_of_ne_nil _ htne] at hc
      exact isBlank_of_getLast?_trim hc
  refine readStages_eq_ok_iff.mpr ⟨?_, as ++ bs, ?_, ?_⟩
  · rw [htrim]
    simp [hsne]
  · rw [htrim]
    simpa using (has.append (.of_blank hblank)).append hbs
  · have hnodup : ((Stages.addAll [] as).map Prod.fst).Nodup :=
      Stages.nodup_addAll as List.nodup_nil
    rw [← Stages.addAll_eq_merge bs hnodup, Stages.addAll, Stages.addAll, Stages.addAll,
      List.foldl_append]

end Intake.Rule

namespace Intake.Domain

open Rule Text

/-- The separator of clauses is found where two colons stand. -/
theorem separatorAt?_clause (c : Char) (rest : List Char) :
    separatorAt? [clauseSeparator] (c :: rest) =
      if c = ':' ∧ rest.head? = some ':' then some clauseSeparator else none := by
  have hprefix : clauseSeparator.isPrefixOf (c :: rest) =
      decide (c = ':' ∧ rest.head? = some ':') := by
    cases rest with
    | nil => simp [clauseSeparator, List.isPrefixOf]
    | cons d rest => simp [clauseSeparator, List.isPrefixOf, beq_eq_decide, eq_comm]
  rw [separatorAt?, List.find?_cons, hprefix]
  by_cases h : c = ':' ∧ rest.head? = some ':'
  · rw [decide_eq_true h, if_pos h]
    rfl
  · rw [decide_eq_false h, if_neg h]
    rfl

/-- A separator is found in a text exactly where it is found when a further one follows, unless the
    text ends with half a separator. -/
theorem separatorAt?_join {c : Char} {s : List Char} (t : List Char)
    (h : s = [] → c ≠ ':') :
    separatorAt? [clauseSeparator] (c :: (s ++ (clauseSeparator ++ t))) =
      separatorAt? [clauseSeparator] (c :: s) := by
  rw [separatorAt?_clause, separatorAt?_clause]
  cases s with
  | nil => simp [h rfl]
  | cons d s => rfl

/-- Where no piece ends in a colon, the pieces of a text end with the text when a separator and a
    further text follow. -/
theorem splitFrom_join {text text' s t : List Char} {scan : Scan} {skip : Nat}
    {ps qs : List (List Char)} (hskip : skip ≤ s.length)
    (hs : splitFrom text [clauseSeparator] scan skip s = .ok ps)
    (hps : ∀ p ∈ ps, p.getLast? ≠ some ':')
    (ht : splitFrom text' [clauseSeparator] .outside 0 t = .ok qs) :
    splitFrom text' [clauseSeparator] scan skip (s ++ (clauseSeparator ++ t)) = .ok (ps ++ qs) := by
  induction s generalizing scan skip ps with
  | nil =>
    obtain rfl : skip = 0 := Nat.le_zero.mp hskip
    obtain ⟨rfl, rfl⟩ := splitFrom_nil_eq_ok.mp hs
    have hsep : separatorAt? [clauseSeparator] (':' :: ':' :: t) = some clauseSeparator := by
      rw [separatorAt?_clause]
      rfl
    exact splitFrom_separator rfl hsep ht
  | cons c s ih =>
    cases skip with
    | succ n => exact ih (Nat.le_of_succ_le_succ hskip) hs hps
    | zero =>
      rcases splitFrom_cases hs with
        ⟨separator, more, hdivides, hsep, hmore, rfl⟩ | ⟨scan', p, more, hsep, hstep, hmore, rfl⟩
      · -- a separator of the first text
        obtain ⟨d, rest, rfl, rfl⟩ : ∃ d rest, s = d :: rest ∧ separator = clauseSeparator := by
          rw [separatorAt?_clause] at hsep
          cases s <;> simp_all
        refine splitFrom_separator hdivides ((separatorAt?_join t (by simp)).trans hsep) ?_
        exact ih (by simp [clauseSeparator]) hmore fun q hq => hps q (List.mem_cons_of_mem _ hq)
      · have hfirst := hps (c :: p) List.mem_cons_self
        have hend : s = [] → c ≠ ':' := by
          rintro rfl rfl
          obtain ⟨-, heq⟩ := splitFrom_nil_eq_ok.mp hmore
          cases heq
          exact hfirst rfl
        rw [List.cons_append]
        refine splitFrom_step hstep (by rwa [separatorAt?_join t hend]) ?_
        refine ih (Nat.zero_le _) hmore fun q hq => ?_
        rcases List.mem_cons.mp hq with rfl | hq
        · exact fun hlast => hfirst (by rw [List.getLast?_cons, hlast]; rfl)
        · exact hps q (List.mem_cons_of_mem _ hq)

/-- A clause closes with a bracket. -/
theorem getLast?_of_readClause {s : List Char} {c : Clause} (h : readClause s = .ok c) :
    (trim s).getLast? = some ']' := by
  rw [readClause] at h
  split at h
  · cases h
  · next hparts =>
    rw [clauseParts?.eq_def] at hparts
    split at hparts
    · next mark rest htrim =>
      split at hparts
      · next path rest' hpath =>
        split at hparts
        · next combinator rest'' hcombinator =>
          obtain ⟨rfl, -⟩ := cutAt_eq_some hpath
          obtain ⟨rfl, -⟩ := cutAt_eq_some hcombinator
          split at hparts
          · next hshape =>
            simp only [Bool.and_eq_true, beq_iff_eq] at hshape
            simp [htrim, List.getLast?_cons, hshape.2]
          · cases hparts
        · cases hparts
      · cases hparts
    · cases hparts

/-- No piece of an accepted text ends in a colon: it is blank or a clause. -/
theorem getLast?_of_piece {p : List Char} (h : allBlank p = true ∨ ∃ c, readClause p = .ok c) :
    p.getLast? ≠ some ':' := by
  intro hlast
  have hcolon : isBlank ':' = false := by decide
  rcases h with hblank | ⟨c, hc⟩
  · have hmem := List.all_eq_true.mp hblank ':' (List.mem_of_getLast? hlast)
    rw [hcolon] at hmem
    cases hmem
  · rcases getLast?_cases hlast with hblank | htrim
    · rw [hcolon] at hblank
      cases hblank
    · rw [getLast?_of_readClause hc] at htrim
      cases htrim

/-- The clauses of texts with a separator between them are those of both. -/
theorem readClauses_append {s t : List Char} {cs ds : List Clause} (hs : readClauses s = .ok cs)
    (ht : readClauses t = .ok ds) : readClauses (s ++ clauseSeparator ++ t) = .ok (cs ++ ds) := by
  obtain ⟨ps, hps, hcs⟩ := bind_eq_ok.mp hs
  obtain ⟨qs, hqs, hds⟩ := bind_eq_ok.mp ht
  have hpieces : ∀ p ∈ ps, p.getLast? ≠ some ':' := by
    refine fun p hp => getLast?_of_piece ?_
    cases hblank : allBlank p with
    | true => exact .inl rfl
    | false => exact .inr (exists_ok_of_mapM hcs p (List.mem_filter.mpr ⟨hp, by simp [hblank]⟩))
  have hjoin : split [clauseSeparator] (s ++ clauseSeparator ++ t) = .ok (ps ++ qs) := by
    rw [split, List.append_assoc]
    exact splitFrom_join (Nat.zero_le _) (mapError_eq_ok.mp hps) hpieces
      (splitFrom_congr (mapError_eq_ok.mp hqs) _)
  refine bind_eq_ok.mpr ⟨ps ++ qs, mapError_eq_ok.mpr hjoin, ?_⟩
  rw [List.filter_append, List.mapM_append]
  exact bind_eq_ok.mpr ⟨cs, hcs, bind_eq_ok.mpr ⟨ds, hds, rfl⟩⟩

/-- Both notations are compositional. Two rules one behind the other, with any blanks between them,
    are read as the rule that merges both; two texts of clauses, with the separator of clauses
    between them, as the clauses of the first and then those of the second. -/
theorem reading_composes :
    (∀ (s t w : List Char) (a b : Stages), allBlank w = true → readStages s = .ok a →
      readStages t = .ok b → readStages (s ++ w ++ t) = .ok (a.merge b)) ∧
    ∀ (s t : List Char) (cs ds : List Clause), readClauses s = .ok cs → readClauses t = .ok ds →
      readClauses (s ++ "::".toList ++ t) = .ok (cs ++ ds) :=
  ⟨fun _ _ _ _ _ hw hs ht => readStages_append hw hs ht,
    fun _ _ _ _ hs ht => readClauses_append hs ht⟩

theorem role_rules_compose :
    (∃ a b, readStages "sanitize(trim)".toList = .ok a ∧
      readStages "sanitize(upcase)validate(integer)".toList = .ok b ∧
      readStages ("sanitize(trim)".toList ++ [' '] ++
        "sanitize(upcase)validate(integer)".toList) = .ok (Stages.merge a b)) ∧
    ∃ cs ds, readClauses "!role=String[admin]".toList = .ok cs ∧
      readClauses "?level=Integer[1]".toList = .ok ds ∧
      readClauses ("!role=String[admin]".toList ++ "::".toList ++ "?level=Integer[1]".toList) =
        .ok (cs ++ ds) := by
  obtain ⟨a, ha⟩ : ∃ a, readStages "sanitize(trim)".toList = .ok a :=
    exists_ok_of_isSome (by decide +kernel)
  obtain ⟨b, hb⟩ : ∃ b, readStages "sanitize(upcase)validate(integer)".toList = .ok b :=
    exists_ok_of_isSome (by decide +kernel)
  obtain ⟨cs, hcs⟩ : ∃ cs, readClauses "!role=String[admin]".toList = .ok cs :=
    exists_ok_of_isSome (by decide +kernel)
  obtain ⟨ds, hds⟩ : ∃ ds, readClauses "?level=Integer[1]".toList = .ok ds :=
    exists_ok_of_isSome (by decide +kernel)
  exact ⟨⟨a, b, ha, hb, reading_composes.1 _ _ [' '] a b (by decide) ha hb⟩,
    cs, ds, hcs, hds, reading_composes.2 _ _ cs ds hcs hds⟩

/-- A stage that both rules have keeps its place and takes up the directives of the second. -/
example :
    (readStages "sanitize(trim) sanitize(upcase)validate(integer)".toList).toOption.map
        (fun stages => stages.map fun s => (s.1, s.2.map (·.name))) =
      some [("sanitize", ["trim", "upcase"]), ("validate", ["integer"])] := by
  decide +kernel

end Intake.Domain
