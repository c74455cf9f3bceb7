import Intake.Proofs.Check.Standard
import Intake.Proofs.Domain
import Intake.Proofs.Rule.Joining
import Intake.Proofs.Rule.Whole

/-!
# Equality and enumerations of one item

A clause may ask for a literal in two ways: `path=Equal[Kind>>x]` asks for a value that equals it,
`path=Kind[x]` for a member of the enumeration that holds nothing else. Both texts are read as
clauses about the same literal (`readClauses_equal`, `readClauses_members`).

The kind says how the literal is read. Only the enumeration asks that the value is of the kind as
well, while equality goes across types: truth values and numbers of all types, the complex ones
included, equal each other by their value, and a member of an enumeration type, which is no text
itself, equals a text that is its name or its value. No other values tell the two clauses apart
(`members_iff_equal`).
-/

namespace Intake.Domain

open Intake.Rule Intake.Text

/-! ### The texts of clauses -/

/-- The text of a clause: its mark, its path and its combinator with the text in brackets. -/
def clauseText (mark : Char) (path : List Char) (combinator : String) (body : List Char) :
    List Char :=
  mark :: (path ++ '=' :: (combinator.toList ++ '[' :: (body ++ [']'])))

/-- A path consists of points and characters of names. -/
theorem mem_of_isClausePath {path : List Char} (h : isClausePath path = true) :
    ∀ c ∈ path, c = '.' ∨ isNameTail c = true := by
  intro c hc
  refine (mem_splitAt '.' hc).imp_right fun ⟨piece, hpiece, hc⟩ => ?_
  rw [isClausePath] at h
  split at h
  · next first rest hsplit =>
    rw [Bool.and_eq_true, List.all_eq_true] at h
    rw [hsplit] at hpiece
    rcases List.mem_cons.mp hpiece with rfl | hpiece
    · obtain ⟨-, -, -, -, hall⟩ := Form.Name.cases ⟨piece, h.1⟩
      exact hall c hc
    · have hrest := h.2 piece hpiece
      rw [Bool.and_eq_true, List.all_eq_true] at hrest
      exact hrest.2 c hc
  · cases h

/-- The text may stand before the brackets of a clause. -/
def isCombinator (s : List Char) : Bool :=
  !s.isEmpty && s.all isLatinLetter

theorem isNameTail_of_isCombinator {s : List Char} (h : isCombinator s = true) :
    ∀ c ∈ s, isNameTail c = true := by
  rw [isCombinator, Bool.and_eq_true, List.all_eq_true] at h
  intro c hc
  simp [isNameTail, h.2 c hc]

section Texts

variable {mark : Char} {path : List Char} {combinator : String} {body : List Char}

/-- The parts that a clause was put together from are found again. -/
theorem clauseParts?_clauseText (hmark : mark = '!' ∨ mark = '?')
    (hpath : isClausePath path = true) (hcombinator : isCombinator combinator.toList = true) :
    clauseParts? (clauseText mark path combinator body) =
      some (mark, path, combinator, body) := by
  have hequals : '=' ∉ path := fun hmem => by
    rcases mem_of_isClausePath hpath _ hmem with h | h <;> exact absurd h (by decide)
  rw [isCombinator, Bool.and_eq_true] at hcombinator
  have hopening : '[' ∉ combinator.toList := fun hmem =>
    absurd (List.all_eq_true.mp hcombinator.2 _ hmem) (by decide)
  have hmark : (mark == '!' || mark == '?') = true := by
    rcases hmark with rfl | rfl <;> rfl
  simp only [clauseParts?, clauseText, cutAt_append hequals, cutAt_append hopening, hmark, hpath,
    hcombinator.1, hcombinator.2, List.getLast?_concat, List.dropLast_concat, String.ofList_toList]
  rfl

/-- A clause has no blanks around it. -/
theorem trim_clauseText (hmark : mark = '!' ∨ mark = '?') :
    trim (clauseText mark path combinator body) = clauseText mark path combinator body := by
  have hlast : (clauseText mark path combinator body).getLast? = some ']' := by
    rw [clauseText, ← List.cons_append, ← List.cons_append, ← List.append_assoc, ← List.cons_append,
      ← List.append_assoc, List.getLast?_concat]
  refine trim_eq_self (fun c hc => ?_) (fun c hc => ?_)
  · obtain rfl : mark = c := Option.some.inj hc
    rcases hmark with rfl | rfl <;> decide
  · obtain rfl : ']' = c := Option.some.inj (hlast.symm.trans hc)
    decide

/-- A clause around a balanced text is one piece between separators of clauses. -/
theorem whole_clauseText (hmark : mark = '!' ∨ mark = '?') (hpath : isClausePath path = true)
    (hcombinator : isCombinator combinator.toList = true) (hbody : Balanced body) :
    Whole [clauseSeparator] .outside (clauseText mark path combinator body) := by
  have hfront : ∀ c ∈ mark :: (path ++ '=' :: combinator.toList),
      isBare c = true ∧ c ≠ ':' := by
    intro c hc
    have hname (h : isNameTail c = true) : isBare c = true ∧ c ≠ ':' :=
      have hc := Form.of_isNameTail h
      ⟨isBare_of_isPlain hc.1, hc.2.2.2.1⟩
    rcases List.mem_cons.mp hc with rfl | hc
    · rcases hmark with rfl | rfl <;> decide
    rcases List.mem_append.mp hc with hc | hc
    · rcases mem_of_isClausePath hpath c hc with rfl | hc
      · decide
      · exact hname hc
    rcases List.mem_cons.mp hc with rfl | hc
    · decide
    · exact hname (isNameTail_of_isCombinator hcombinator c hc)
  have hwhole : Whole [clauseSeparator] .outside
      ((mark :: (path ++ '=' :: combinator.toList)) ++ '[' :: (body ++ [']'])) := by
    refine .bare_append (fun c hc => ⟨(hfront c hc).1, fun rest => ?_⟩)
      (.bracketed rfl rfl hbody)
    have hne : ':' ≠ c := (hfront c hc).2.symm
    simp [separatorAt?, clauseSeparator, hne]
  simpa [clauseText] using hwhole

/-- A text of one clause is read as the clause that its parts denote. -/
theorem readClauses_clauseText (hmark : mark = '!' ∨ mark = '?')
    (hpath : isClausePath path = true) (hcombinator : isCombinator combinator.toList = true)
    (hbody : Balanced body) {d : Demand} (hd : readDemand combinator body = .ok d) :
    readClauses (clauseText mark path combinator body) =
      .ok [⟨mark == '!', String.ofList path, d⟩] := by
  have hblank : allBlank (clauseText mark path combinator body) = false := by
    have hmark : isBlank mark = false := by rcases hmark with rfl | rfl <;> decide
    rw [clauseText, allBlank, List.all_cons, hmark, Bool.false_and]
  have hclause : readClause (clauseText mark path combinator body) =
      .ok ⟨mark == '!', String.ofList path, d⟩ := by
    rw [readClause, trim_clauseText hmark, clauseParts?_clauseText hmark hpath hcombinator]
    dsimp only
    rw [hd]
    rfl
  rw [readClauses, (whole_clauseText hmark hpath hcombinator hbody).split_eq]
  simp [Except.mapError, bind, Except.bind, hblank, hclause, pure, Except.pure]

end Texts

/-! ### Clauses about a literal -/

section Literal

variable {kind : String} {x : List Char} {w : Value}

theorem isCombinator_of_kind (hkind : kind ∈ EnumSet.kinds) :
    isCombinator kind.toList = true := by
  have hall : EnumSet.kinds.all (fun kind => isCombinator kind.toList) = true := by decide
  exact List.all_eq_true.mp hall kind hkind

/-- The text between the brackets of `Equal` is divided into the kind and the literal. -/
theorem trimmedPieces_kind (hkind : kind ∈ EnumSet.kinds) (hx : Whole enumSeparators .outside x) :
    trimmedPieces [valueSeparator] (kind.toList ++ (valueSeparator ++ x)) =
      .ok [kind.toList, trim x] := by
  have hletters (c : Char) (hc : c ∈ kind.toList) :=
    Form.of_isNameTail (isNameTail_of_isCombinator (isCombinator_of_kind hkind) c hc)
  have htrim : trim kind.toList = kind.toList :=
    trim_eq_self (fun c hc => (hletters c (List.mem_of_head? hc)).2.1)
      (fun c hc => (hletters c (List.mem_of_getLast? hc)).2.1)
  have hsolid : Solid (· == '>') kind.toList := by
    refine .of_plain fun c hc => ?_
    obtain ⟨hplain, -, -, -, hne⟩ := hletters c hc
    have hbare := isBare_of_isPlain hplain
    rw [isBare] at hbare
    rw [isPlain, hbare, Bool.true_and, Bool.not_eq_true', beq_eq_false_iff_ne]
    exact hne
  have hwhole : Whole [valueSeparator] .outside x := hx.mono enumSeparators_ne_nil (by decide)
  have hbehind : splitFrom (kind.toList ++ (valueSeparator ++ x)) [valueSeparator] .outside 0
      (valueSeparator ++ x) = .ok [[], x] :=
    splitFrom_separator rfl rfl (splitFrom_eq_singleton_iff.mpr ⟨rfl, hwhole⟩)
  have hsplit : split [valueSeparator] (kind.toList ++ (valueSeparator ++ x)) =
      .ok [kind.toList ++ [], x] := by
    refine hsolid.splitFrom (.inr fun c hc rest => ?_) hbehind
    have hne : '>' ≠ c := fun heq => by simp [← heq] at hc
    simp [separatorAt?, valueSeparator, hne]
  rw [Form.trimmedPieces_eq hsplit, List.append_nil, List.map_cons, List.map_singleton, htrim]

/-- Equality is demanded with the item that the enumeration holds. -/
theorem readDemand_equal (hkind : kind ∈ EnumSet.kinds)
    (h : readEnumSet kind x = .ok ⟨kind, [w]⟩) :
    readDemand "Equal" (kind.toList ++ (valueSeparator ++ x)) = .ok (.equal w) := by
  have hpath : kind ≠ "Path" := by
    rintro rfl
    exact absurd hkind (by decide)
  have hpieces := trimmedPieces_kind hkind (readEnumSet_single hkind h).1
  have hcontains : EnumSet.kinds.contains kind = true := List.contains_iff_mem.mpr hkind
  have hequal : EnumSet.kinds.contains "Equal" = false := by decide
  rw [readDemand, if_neg (by rw [hequal]; decide), if_pos (by decide), readEqual, hpieces]
  simp only [bind, Except.bind]
  rw [if_neg (by simpa using hpath), if_neg (by simpa using hkind), String.ofList_toList,
    readEnumSet_trim hkind h]
  rfl

/-- Membership is demanded in the enumeration. -/
theorem readDemand_members {e : EnumSet} (hkind : kind ∈ EnumSet.kinds)
    (h : readEnumSet kind x = .ok e) : readDemand kind x = .ok (.members e) := by
  rw [readDemand, if_pos (List.contains_iff_mem.mpr hkind), h]
  rfl

variable {mark : Char} {path : List Char}

/-- A clause that asks for equality with a literal is read. -/
theorem readClauses_equal (hmark : mark = '!' ∨ mark = '?') (hpath : isClausePath path = true)
    (hkind : kind ∈ EnumSet.kinds) (h : readEnumSet kind x = .ok ⟨kind, [w]⟩) :
    readClauses (clauseText mark path "Equal" (kind.toList ++ (">>".toList ++ x))) =
      .ok [⟨mark == '!', String.ofList path, .equal w⟩] := by
  have hletters : isCombinator "Equal".toList = true := by decide
  have hbalanced : Balanced (kind.toList ++ (valueSeparator ++ x)) := by
    have hplain : Balanced kind.toList := .of_isBare fun c hc => isBare_of_isPlain
      (Form.of_isNameTail (isNameTail_of_isCombinator (isCombinator_of_kind hkind) c hc)).1
    have hseparator : Balanced valueSeparator := by decide
    exact hplain.append (hseparator.append (readEnumSet_single hkind h).1.balanced)
  exact readClauses_clauseText hmark hpath hletters hbalanced (readDemand_equal hkind h)

/-- A clause that asks for the member of an enumeration is read. -/
theorem readClauses_members (hmark : mark = '!' ∨ mark = '?') (hpath : isClausePath path = true)
    (hkind : kind ∈ EnumSet.kinds) (h : readEnumSet kind x = .ok ⟨kind, [w]⟩) :
    readClauses (clauseText mark path kind x) =
      .ok [⟨mark == '!', String.ofList path, .members ⟨kind, [w]⟩⟩] :=
  readClauses_clauseText hmark hpath (isCombinator_of_kind hkind)
    (readEnumSet_single hkind h).1.balanced (readDemand_members hkind h)

end Literal

/-! ### Values that tell the clauses apart -/

section Conformity

variable {functions : Functions} {lookup : Lookup} {v w : Value}

theorem isMet_members_iff {e : EnumSet} :
    (Demand.members e).IsMet functions lookup v ↔ e.contains v = true := by
  constructor
  · intro h
    exact Except.ok.inj (h .empty)
  · intro h j
    exact congrArg Except.ok h

theorem isMet_equal_iff_passes : (Demand.equal w).IsMet functions lookup v ↔
    Check.Passes functions ⟨"equal", .literal w⟩ v := by
  refine forall_congr' fun j => ?_
  rw [conforms]
  constructor
  · intro h
    obtain ⟨x, k, hx, hpass⟩ := Run.start_bind_eq_ok.mp (Prod.ext h rfl)
    exact ⟨x, k, hx, Except.ok.inj (congrArg Prod.fst hpass)⟩
  · rintro ⟨x, k, hx, hpass⟩
    rw [Run.start_bind_eq_ok.mpr ⟨x, k, hx, rfl⟩, hpass]

/-- A value that does not equal the literal is rejected, or cannot even be shown. -/
theorem isMet_equal_iff : (Demand.equal w).IsMet functions lookup v ↔
    (Check.equalsSymbol v (.literal w) || v.equals w) = true := by
  have hcheck : Check.standard? "equal" = some Check.equal := rfl
  rw [isMet_equal_iff_passes, Check.passes_iff_of_standard? hcheck (by decide) (by decide),
    Check.equal, Check.equalsArgument]
  split
  · next hequal =>
    rw [hequal]
    exact iff_of_true ⟨.valid, rfl, rfl⟩ rfl
  · next hnot =>
    refine iff_of_false ?_ hnot
    rintro ⟨x, hx, hpass⟩
    obtain ⟨shown, -, hx⟩ := bind_eq_ok.mp hx
    split at hx
    · cases hx
    · cases hx
      cases hpass

/-- The value may equal a literal of the kind though it is of none of the types that the kind
    covers: a member of an enumeration type is no text, a truth value, a binary64 number or a complex
    number no integer, and a truth value or a complex number no real number. -/
def crossesKind (kind : String) (v : Value) : Bool :=
  match kind, v with
  | "String", .symbol _ _ _ => true
  | "Integer", .bool _ => true
  | "Integer", .float _ => true
  | "Integer", .complex _ _ => true
  | "Float", .bool _ => true
  | "Float", .complex _ _ => true
  | _, _ => false

/-- The only item of an enumeration is compared with the value. -/
theorem isIn_singleton (u w : Value) : u.isIn [w] = w.equals u := by
  rw [Value.isIn, List.any_cons, List.any_nil, Bool.or_false]

/-- Membership is equality without the values that equality alone admits. -/
theorem contains_iff {kind : String} (hw : IsItem kind w) (hv : v.WellFormed) :
    EnumSet.contains ⟨kind, [w]⟩ v = true ↔
      (Check.equalsSymbol v (.literal w) || v.equals w) = true ∧ crossesKind kind v = false := by
  cases hw with
  | string t =>
    rw [Value.equals_comm_of_isScalar rfl]
    cases v with
    | text u =>
      simp [EnumSet.contains, Value.isText, isIn_singleton, Check.equalsSymbol, crossesKind]
    | symbol k member value => simp [EnumSet.contains, Value.isText, crossesKind]
    | _ => exact iff_of_false Bool.false_ne_true (by rintro ⟨⟨⟩, -⟩)
  | atom t =>
    rw [Value.equals_comm_of_isScalar rfl]
    cases v with
    | text u => simp [EnumSet.contains, isIn_singleton, Check.equalsSymbol, crossesKind]
    | symbol k member value =>
      have hnot : (Value.text t).equals (.symbol k member value) = false := rfl
      have hname : (Value.text t).equals (.text member) = (t == member) := rfl
      have hvalue : value.equals (.text t) = (Value.text t).equals value :=
        Value.equals_comm_of_isScalar rfl value
      simp [EnumSet.contains, isIn_singleton, Check.equalsSymbol, crossesKind, hnot, hname, hvalue]
    | _ => exact iff_of_false Bool.false_ne_true (by rintro ⟨⟨⟩, -⟩)
  | integer n =>
    rw [Value.equals_comm_of_isScalar rfl]
    cases v with
    | int m => simp [EnumSet.contains, isIn_singleton, Check.equalsSymbol, crossesKind]
    | bool b => simp [EnumSet.contains, crossesKind]
    | float x => simp [EnumSet.contains, crossesKind]
    | complex x y => simp [EnumSet.contains, crossesKind]
    | _ => exact iff_of_false Bool.false_ne_true (by rintro ⟨⟨⟩, -⟩)
  | float y =>
    rw [Value.equals_comm_of_isScalar rfl]
    cases v with
    | int m => simp [EnumSet.contains, isIn_singleton, Check.equalsSymbol, crossesKind]
    | float x => simp [EnumSet.contains, isIn_singleton, Check.equalsSymbol, crossesKind]
    | bool b => simp [EnumSet.contains, crossesKind]
    | complex x y => simp [EnumSet.contains, crossesKind]
    | _ => exact iff_of_false Bool.false_ne_true (by rintro ⟨⟨⟩, -⟩)
  | map hes =>
    -- The entries of the literal are looked for in the value, or those of the value in the literal.
    rw [hv.equals_comm hes]
    cases v with
    | map fs =>
      simp [EnumSet.contains, Value.isMap, isIn_singleton, Check.equalsSymbol, crossesKind]
    | _ => exact iff_of_false Bool.false_ne_true (by rintro ⟨⟨⟩, -⟩)

end Conformity

/-- A single literal of a kind asks for the same in both notations, but for what a value may be.
    The two clauses are read alike, and a well formed value that conforms to the enumeration of the
    literal equals it; a value that equals it conforms to the enumeration unless it crosses the
    kind. -/
theorem members_iff_equal {mark : Char} {path : List Char} {kind : String} {x : List Char}
    {w : Value} (hmark : mark = '!' ∨ mark = '?') (hpath : isClausePath path = true)
    (hkind : kind ∈ EnumSet.kinds) (hx : readEnumSet kind x = .ok ⟨kind, [w]⟩) :
    ∃ c d : Clause,
      readClauses (clauseText mark path "Equal" (kind.toList ++ (">>".toList ++ x))) = .ok [c] ∧
      readClauses (clauseText mark path kind x) = .ok [d] ∧
      c.required = d.required ∧ c.path = d.path ∧
      ∀ (functions : Functions) (lookup : Lookup) (v : Value), v.WellFormed →
        (d.demand.IsMet functions lookup v ↔
          c.demand.IsMet functions lookup v ∧ crossesKind kind v = false) := by
  refine ⟨_, _, readClauses_equal hmark hpath hkind hx, readClauses_members hmark hpath hkind hx,
    rfl, rfl, fun functions lookup v hv => ?_⟩
  obtain ⟨-, -, hitem⟩ := readEnumSet_single hkind hx
  obtain ⟨_, heq, hw⟩ := exists_of_readItem hkind hitem
  cases heq
  rw [isMet_members_iff, isMet_equal_iff]
  exact contains_iff hw hv

/-- Of a member of an enumeration type, both notations ask for the name or the value. -/
theorem role_members_iff_equal :
    isClausePath "role".toList = true ∧ "Atom" ∈ EnumSet.kinds ∧
    readEnumSet "Atom" " admin".toList = .ok ⟨"Atom", [.text "admin"]⟩ ∧
    (Value.symbol "Role" "ADMIN" (.text "admin")).WellFormed ∧
    ∃ c d : Clause, readClauses "!role=Equal[Atom>> admin]".toList = .ok [c] ∧
      readClauses "!role=Atom[ admin]".toList = .ok [d] ∧
      ∀ (functions : Functions) (lookup : Lookup),
        d.demand.IsMet functions lookup (.symbol "Role" "ADMIN" (.text "admin")) ↔
          c.demand.IsMet functions lookup (.symbol "Role" "ADMIN" (.text "admin")) := by
  have hpath : isClausePath "role".toList = true := by decide
  have hkind : "Atom" ∈ EnumSet.kinds := by decide
  have hx : readEnumSet "Atom" " admin".toList = .ok ⟨"Atom", [.text "admin"]⟩ := by rfl
  have hv : (Value.symbol "Role" "ADMIN" (.text "admin")).WellFormed := .scalar rfl nofun
  refine ⟨hpath, hkind, hx, hv, ?_⟩
  obtain ⟨c, d, hc, hd, -, -, hiff⟩ := members_iff_equal (.inl rfl) hpath hkind hx
  refine ⟨c, d, hc, hd, fun functions lookup => (hiff functions lookup _ hv).trans ?_⟩
  exact and_iff_left rfl

/-- Truth values equal integers, and are members of no enumeration of integers. -/
theorem truth_tells_clauses_apart :
    ∃ c d : Clause, readClauses "!a=Equal[Integer>>1]".toList = .ok [c] ∧
      readClauses "!a=Integer[1]".toList = .ok [d] ∧
      ∀ (functions : Functions) (lookup : Lookup),
        c.demand.IsMet functions lookup (.bool true) ∧
          ¬ d.demand.IsMet functions lookup (.bool true) := by
  have hpath : isClausePath "a".toList = true := by decide
  have hkind : "Integer" ∈ EnumSet.kinds := by decide
  have hx : readEnumSet "Integer" "1".toList = .ok ⟨"Integer", [.int 1]⟩ := by rfl
  refine ⟨_, _, readClauses_equal (.inl rfl) hpath hkind hx,
    readClauses_members (.inl rfl) hpath hkind hx, fun functions lookup => ?_⟩
  rw [isMet_members_iff, isMet_equal_iff]
  decide

end Intake.Domain
