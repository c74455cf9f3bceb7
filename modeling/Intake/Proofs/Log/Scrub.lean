import Intake.Log.Scrub
import Mathlib.Data.List.Forall2

/-!
# What scrubbing hides

Two values are the same but for secrets (`SameButSecrets`) when they differ at most in what is
stored under keys that tell of a secret, however deep. Scrubbed, they are the same exactly when
these secrets lie within the levels that are looked at (`scrub_eq_iff`): a difference there is never
seen, and one below is always seen (`scrub_shows_buried_secret`).

The number that goes with `SameButSecrets` bounds the depth of the secrets. Both directions are
proved along the levels, for any level to begin at: what lies within the levels that are left is
scrubbed alike (`SameButSecrets.scrubAt_eq`), and what is scrubbed alike differs there only
(`SameButSecrets.within`). A container below the last level is left as it is (`scrubAt_of_lt`).
-/

namespace Intake.Log

/-- The values differ at most in what is stored under keys that tell of a secret, in maps inside of
    fewer than `n` collections. The parts of collections are compared through zipped lists, as the
    relation cannot be put under a relation of lists while it is being defined. -/
inductive SameButSecrets : Nat → Value → Value → Prop
  | same (n : Nat) (v : Value) : SameButSecrets n v v
  | map {n : Nat} {es fs : List (Value × Value)} :
    es.map Prod.fst = fs.map Prod.fst →
    (∀ e f, (e, f) ∈ es.zip fs → isSensitive e.1 = false → SameButSecrets n e.2 f.2) →
    SameButSecrets (n + 1) (.map es) (.map fs)
  | list {n : Nat} {vs ws : List Value} :
    vs.length = ws.length → (∀ v w, (v, w) ∈ vs.zip ws → SameButSecrets n v w) →
    SameButSecrets (n + 1) (.list vs) (.list ws)
  | tuple {n : Nat} {vs ws : List Value} :
    vs.length = ws.length → (∀ v w, (v, w) ∈ vs.zip ws → SameButSecrets n v w) →
    SameButSecrets (n + 1) (.tuple vs) (.tuple ws)

/-! ### Collections, part by part -/

theorem scrubItems_eq_map (d : Nat) (vs : List Value) :
    scrubItems d vs = vs.map (scrubAt (d + 1)) := by
  induction vs with
  | nil => rfl
  | cons v rest ih => rw [scrubItems, ih, List.map_cons]

/-- An entry at a depth, with secrets masked. -/
def scrubEntry (d : Nat) (e : Value × Value) : Value × Value :=
  (e.1, if isSensitive e.1 then mask else scrubAt (d + 1) e.2)

theorem scrubEntries_eq_map (d : Nat) (es : List (Value × Value)) :
    scrubEntries d es = es.map (scrubEntry d) := by
  induction es with
  | nil => rfl
  | cons e rest ih => rw [scrubEntries, ih, List.map_cons, scrubEntry]

/-- Two lists of one length have the same image when their items do, one by one. -/
theorem map_eq_map_iff_zip {α β : Type} (f : α → β) {l l' : List α} (h : l.length = l'.length) :
    l.map f = l'.map f ↔ ∀ a b, (a, b) ∈ l.zip l' → f a = f b := by
  rw [← List.forall₂_eq_eq_eq, List.forall₂_map_left_iff, List.forall₂_map_right_iff,
    List.forall₂_iff_zip]
  exact ⟨fun hzip _ _ hab => hzip.2 hab, fun hzip => ⟨h, fun hab => hzip _ _ hab⟩⟩

theorem scrubItems_eq_iff (d : Nat) {vs ws : List Value} (h : vs.length = ws.length) :
    scrubItems d vs = scrubItems d ws ↔
      ∀ v w, (v, w) ∈ vs.zip ws → scrubAt (d + 1) v = scrubAt (d + 1) w := by
  rw [scrubItems_eq_map, scrubItems_eq_map, map_eq_map_iff_zip _ h]

theorem fst_eq_of_mem_zip {es fs : List (Value × Value)} (h : es.map Prod.fst = fs.map Prod.fst)
    {e f : Value × Value} (hmem : (e, f) ∈ es.zip fs) : e.1 = f.1 := by
  have hlength : es.length = fs.length := by simpa using congrArg List.length h
  exact (map_eq_map_iff_zip Prod.fst hlength).1 h e f hmem

theorem scrubEntries_eq_iff (d : Nat) {es fs : List (Value × Value)}
    (h : es.map Prod.fst = fs.map Prod.fst) :
    scrubEntries d es = scrubEntries d fs ↔
      ∀ e f, (e, f) ∈ es.zip fs → isSensitive e.1 = false →
        scrubAt (d + 1) e.2 = scrubAt (d + 1) f.2 := by
  have hlength : es.length = fs.length := by simpa using congrArg List.length h
  rw [scrubEntries_eq_map, scrubEntries_eq_map, map_eq_map_iff_zip _ hlength]
  refine forall_congr' fun e => forall_congr' fun f => forall_congr' fun hmem => ?_
  have hkey : e.1 = f.1 := fst_eq_of_mem_zip h hmem
  unfold scrubEntry
  cases hsecret : isSensitive e.1 <;> simp [← hkey, hsecret]

/-- Below the levels that are looked at, a value stays as it is. -/
theorem scrubAt_of_lt {d : Nat} (h : levels < d) (v : Value) : scrubAt d v = v := by
  cases v <;> simp [scrubAt, h]

/-! ### Differences within the levels, and below -/

/-- Secrets within the levels that are looked at are not seen in the scrubbed value. -/
theorem SameButSecrets.scrubAt_eq {n : Nat} {v w : Value} (h : SameButSecrets n v w) {d : Nat}
    (hd : d + n ≤ levels + 1) : scrubAt d v = scrubAt d w := by
  induction h generalizing d with
  | same => rfl
  | @map n es fs hkeys _ ih =>
    have hseen : ¬levels < d := by omega
    have hentries : scrubEntries d es = scrubEntries d fs :=
      (scrubEntries_eq_iff d hkeys).2 fun e f hmem hsecret => ih e f hmem hsecret (by omega)
    rw [scrubAt, scrubAt, if_neg hseen, if_neg hseen, hentries]
  | @list n vs ws hlength _ ih | @tuple n vs ws hlength _ ih =>
    have hseen : ¬levels < d := by omega
    have hitems : scrubItems d vs = scrubItems d ws :=
      (scrubItems_eq_iff d hlength).2 fun v w hmem => ih v w hmem (by omega)
    rw [scrubAt, scrubAt, if_neg hseen, if_neg hseen, hitems]

/-- Values that are the same once scrubbed have no secret apart below the levels looked at. -/
theorem SameButSecrets.within {n : Nat} {v w : Value} (h : SameButSecrets n v w) {d : Nat}
    (heq : scrubAt d v = scrubAt d w) : SameButSecrets (levels + 1 - d) v w := by
  induction h generalizing d with
  | same => exact .same _ _
  | @map n es fs hkeys _ ih =>
    by_cases hd : levels < d
    · obtain rfl : es = fs := by simpa [scrubAt_of_lt hd] using heq
      exact .same _ _
    · rw [scrubAt, scrubAt, if_neg hd, if_neg hd, Value.map.injEq, scrubEntries_eq_iff d hkeys]
        at heq
      rw [show levels + 1 - d = levels + 1 - (d + 1) + 1 by omega]
      exact .map hkeys fun e f hmem hsecret => ih e f hmem hsecret (heq e f hmem hsecret)
  | @list n vs ws hlength _ ih =>
    by_cases hd : levels < d
    · obtain rfl : vs = ws := by simpa [scrubAt_of_lt hd] using heq
      exact .same _ _
    · rw [scrubAt, scrubAt, if_neg hd, if_neg hd, Value.list.injEq, scrubItems_eq_iff d hlength]
        at heq
      rw [show levels + 1 - d = levels + 1 - (d + 1) + 1 by omega]
      exact .list hlength fun v w hmem => ih v w hmem (heq v w hmem)
  | @tuple n vs ws hlength _ ih =>
    by_cases hd : levels < d
    · obtain rfl : vs = ws := by simpa [scrubAt_of_lt hd] using heq
      exact .same _ _
    · rw [scrubAt, scrubAt, if_neg hd, if_neg hd, Value.list.injEq, scrubItems_eq_iff d hlength]
        at heq
      rw [show levels + 1 - d = levels + 1 - (d + 1) + 1 by omega]
      exact .tuple hlength fun v w hmem => ih v w hmem (heq v w hmem)

/-- Values that are the same but for secrets, at any depth, are scrubbed to the same value exactly
    when the secrets lie within the levels that are looked at: in the event itself, or in
    collections at most `levels` levels below it. -/
theorem scrub_eq_iff {n : Nat} {v w : Value} (h : SameButSecrets n v w) :
    scrub v = scrub w ↔ SameButSecrets (levels + 1) v w :=
  ⟨fun heq => h.within heq, fun hwithin => hwithin.scrubAt_eq (by omega)⟩

/-- The password of a request, inside of further maps. -/
def requestWithin : Nat → String → Value
  | 0, secret => .map [(.text "user", .text "ann"), (.text "Password", .text secret)]
  | n + 1, secret => .map [(.text "request", requestWithin n secret)]

/-- Maps of one entry are the same but for secrets when their contents are. -/
theorem SameButSecrets.singleton {n : Nat} (key : Value) {v w : Value}
    (h : SameButSecrets n v w) : SameButSecrets (n + 1) (.map [(key, v)]) (.map [(key, w)]) := by
  refine .map rfl fun e f hmem _ => ?_
  obtain ⟨rfl, rfl⟩ : e = (key, v) ∧ f = (key, w) := by simpa using hmem
  exact h

theorem sameButSecrets_requestWithin (n : Nat) (p q : String) :
    SameButSecrets (n + 1) (requestWithin n p) (requestWithin n q) := by
  induction n with
  | zero =>
    refine .map rfl fun e f hmem hsecret => ?_
    have hcases : (e = (.text "user", .text "ann") ∧ f = (.text "user", .text "ann")) ∨
        (e = (.text "Password", .text p) ∧ f = (.text "Password", .text q)) := by
      simpa [requestWithin] using hmem
    rcases hcases with ⟨rfl, rfl⟩ | ⟨rfl, rfl⟩
    · exact .same 0 _
    · have hpassword : isSensitive (.text "Password") = true := by decide
      simp [hpassword] at hsecret
  | succ n ih => exact ih.singleton (.text "request")

theorem scrub_hides_last_level :
    SameButSecrets 6 (requestWithin 5 "a") (requestWithin 5 "b") ∧
      scrub (requestWithin 5 "a") = scrub (requestWithin 5 "b") :=
  have h := sameButSecrets_requestWithin 5 "a" "b"
  ⟨h, (scrub_eq_iff h).2 h⟩

/-- A secret below the levels that are looked at is written as it is. -/
theorem scrub_shows_buried_secret :
    SameButSecrets 7 (requestWithin 6 "a") (requestWithin 6 "b") ∧
      scrub (requestWithin 6 "a") ≠ scrub (requestWithin 6 "b") := by
  have hrequest : isSensitive (.text "request") = false := by decide
  refine ⟨sameButSecrets_requestWithin 6 "a" "b", ?_⟩
  simp [scrub, requestWithin, scrubAt, scrubEntries, levels, hrequest]

end Intake.Log
