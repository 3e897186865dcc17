import DeviceKeys.Store.Document
import DeviceKeys.Proofs.Json.Skipped
import DeviceKeys.Proofs.Store.Grammar

/-! # Records are read as the grammar says

* Each part of a document is read just when it stands there: members and elements
  (`nextMember_eq_true_iff`, `nextElement_eq_true`), texts and keys (`readText_eq_ok_iff`,
  `readKey_eq_ok_iff`), the members of a record (`readMember_eq_ok`, `readMember_of_form`).
* A record in braces is read member by member. `PartialRecord.Gains` says what some members add to
  those read so far: never a second manufacturer id or a second key.
* **`readRecord_eq_ok_iff`**: a record is read just when it has the form of one.
-/

namespace DeviceKeys

open Json

variable {s t r : Bytes}

/-! ## 1. Parts of a document -/

/-- What is refused is never read. -/
theorem refuse_ne_ok {α : Type} (expected : Expected) (s : Bytes) (a : α) :
    refuse expected s ≠ .ok a := by
  unfold refuse
  simp only
  repeat' split
  all_goals simp [stopAt, stopPast]

theorem readText_eq_ok_iff {m : String} :
    readText s = .ok (m, r) ↔ ∃ t, Blank s (0x22 :: t) ∧ StringForm t m r := by
  constructor
  · intro h
    unfold readText at h
    split at h
    · cases h
    rename_i b t hs
    split at h
    · subst b
      exact ⟨t, (skipSpace_eq_cons_iff.mp hs).1, readString_eq_ok_iff.mp h⟩
    · exact absurd h (refuse_ne_ok _ _ _)
  · rintro ⟨t, hs, ht⟩
    unfold readText
    rw [skipSpace_eq_cons_iff.mpr ⟨hs, rfl⟩]
    exact readString_eq_ok_iff.mpr ht

theorem readColon_eq_ok_iff : readColon s = .ok r ↔ Blank s (0x3A :: r) := by
  constructor
  · intro h
    unfold readColon at h
    split at h
    · cases h
    rename_i b t hs
    split at h
    · subst b
      cases h
      exact (skipSpace_eq_cons_iff.mp hs).1
    · cases h
  · intro hs
    unfold readColon
    rw [skipSpace_eq_cons_iff.mpr ⟨hs, rfl⟩]
    rfl

theorem nextMember_eq_false_iff {first : Bool} :
    nextMember first s = .ok (false, r) ↔ ∃ t, r = 0x7D :: t ∧ Blank s r := by
  constructor
  · intro h
    unfold nextMember at h
    split at h
    · cases h
    rename_i b t hs
    split at h
    · subst b
      cases h
      exact ⟨t, rfl, (skipSpace_eq_cons_iff.mp hs).1⟩
    split at h
    · split at h <;> cases h
    split at h
    · split at h
      · cases h
      · repeat' split at h
        all_goals cases h
    · cases h
  · rintro ⟨t, rfl, hs⟩
    unfold nextMember
    rw [skipSpace_eq_cons_iff.mpr ⟨hs, rfl⟩]
    rfl

theorem nextMember_eq_true_iff {first : Bool} :
    nextMember first s = .ok (true, r) ↔ ∃ t, Comma first s t ∧ Blank t (0x22 :: r) := by
  constructor
  · intro h
    unfold nextMember at h
    split at h
    · cases h
    rename_i b t hs
    split at h
    · cases h
    split at h
    · rename_i hf
      split at h
      · subst b
        cases h
        subst first
        exact ⟨s, rfl, (skipSpace_eq_cons_iff.mp hs).1⟩
      · cases h
    rename_i hf
    split at h
    · subst b
      split at h
      · cases h
      rename_i c u ht
      split at h
      · subst c
        cases h
        obtain rfl : first = false := by simpa using hf
        exact ⟨t, (skipSpace_eq_cons_iff.mp hs).1, (skipSpace_eq_cons_iff.mp ht).1⟩
      · split at h <;> cases h
    · cases h
  · rintro ⟨t, hc, ht⟩
    unfold nextMember
    cases first with
    | true =>
      obtain rfl : s = t := hc
      rw [skipSpace_eq_cons_iff.mpr ⟨ht, rfl⟩]
      rfl
    | false =>
      rw [skipSpace_eq_cons_iff.mpr ⟨hc, rfl⟩]
      simp only [skipSpace_eq_cons_iff.mpr ⟨ht, rfl⟩]
      rfl

theorem nextElement_eq_true {first : Bool} (h : nextElement first s = .ok (true, r)) :
    ∃ t, Comma first s t ∧ Blank t r := by
  unfold nextElement at h
  split at h
  · cases h
  rename_i b t hs
  split at h
  · cases h
  split at h
  · rename_i hf
    cases h
    subst first
    exact ⟨s, rfl, hs ▸ blank_skipSpace s⟩
  rename_i hf
  split at h
  · subst b
    split at h
    · cases h
    rename_i c u ht
    split at h
    · cases h
    · cases h
      obtain rfl : first = false := by simpa using hf
      exact ⟨t, (skipSpace_eq_cons_iff.mp hs).1, ht ▸ blank_skipSpace t⟩
  · cases h

theorem nextElement_of_string {first : Bool} (hc : Comma first s t) (ht : Blank t (0x22 :: r)) :
    nextElement first s = .ok (true, 0x22 :: r) := by
  unfold nextElement
  cases first with
  | true =>
    obtain rfl : s = t := hc
    rw [skipSpace_eq_cons_iff.mpr ⟨ht, rfl⟩]
    rfl
  | false =>
    rw [skipSpace_eq_cons_iff.mpr ⟨hc, rfl⟩]
    simp only [skipSpace_eq_cons_iff.mpr ⟨ht, rfl⟩]
    rfl

theorem closeList_eq_ok_iff : closeList s = .ok r ↔ Blank s (0x5D :: r) := by
  constructor
  · intro h
    unfold closeList at h
    split at h
    · cases h
    rename_i b t hs
    split at h
    · subst b
      cases h
      exact (skipSpace_eq_cons_iff.mp hs).1
    split at h
    · split at h
      · cases h
      · split at h <;> cases h
    · cases h
  · intro hs
    unfold closeList
    rw [skipSpace_eq_cons_iff.mpr ⟨hs, rfl⟩]
    rfl

/-! ## 2. Members of a record -/

theorem placing_eq_ok_iff {α : Type} {x : Except Fault α} {a : α} :
    placing x = .ok a ↔ x = .ok a := by
  cases x <;> simp [placing]

theorem readKey_eq_ok_iff {k : DeviceKey} : readKey s = .ok (k, r) ↔
    ∃ t text, Blank s (0x22 :: t) ∧ StringForm t text r ∧ k.SpelledBy text := by
  unfold readKey
  rw [bind_eq_ok_iff]
  constructor
  · rintro ⟨⟨text, u⟩, ht, h⟩
    obtain ⟨t, hs, ht⟩ := readText_eq_ok_iff.mp (placing_eq_ok_iff.mp ht)
    simp only at h
    split at h
    · rename_i hk
      cases h
      exact ⟨t, text, hs, ht, DeviceKey.ofHex_eq_ok_iff.mp hk⟩
    · cases h
  · rintro ⟨t, text, hs, ht, hk⟩
    refine ⟨(text, r), placing_eq_ok_iff.mpr (readText_eq_ok_iff.mpr ⟨t, hs, ht⟩), ?_⟩
    simp only [DeviceKey.ofHex_eq_ok_iff.mpr hk]

/-- What members add to those read so far: nothing that is there already. -/
def PartialRecord.Gains (p : PartialRecord) (fields : List (String × Field)) (q : PartialRecord) :
    Prop :=
  q.manufacturerId.toList = p.manufacturerId.toList ++ fields.filterMap (·.2.manufacturerId?) ∧
    q.key.toList = p.key.toList ++ fields.filterMap (·.2.key?)

theorem PartialRecord.gains_nil {p q : PartialRecord} : p.Gains [] q ↔ q = p := by
  obtain ⟨m, k⟩ := p
  obtain ⟨m', k'⟩ := q
  unfold Gains
  cases m <;> cases k <;> cases m' <;> cases k' <;> simp

/-- Members are gained one after the other. -/
theorem PartialRecord.gains_cons {p q : PartialRecord} {f : String × Field}
    {fields : List (String × Field)} :
    p.Gains (f :: fields) q ↔ ∃ p', p.Gains [f] p' ∧ p'.Gains fields q := by
  have happ {α : Type} (g : String × Field → Option α) :
      (f :: fields).filterMap g = [f].filterMap g ++ fields.filterMap g :=
    List.filterMap_append (l := [f])
  constructor
  · rintro ⟨hm, hk⟩
    obtain ⟨name, f⟩ := f
    obtain ⟨m, k⟩ := p
    obtain ⟨m', k'⟩ := q
    cases f with
    | other => exact ⟨⟨m, k⟩, by simp [Gains, Field.manufacturerId?, Field.key?], hm, hk⟩
    | manufacturerId x =>
      cases m with
      | some => cases m' <;> simp [Field.manufacturerId?] at hm
      | none => exact ⟨⟨some x, k⟩, by simp [Gains, Field.manufacturerId?, Field.key?], hm, hk⟩
    | key x =>
      cases k with
      | some => cases k' <;> simp [Field.key?] at hk
      | none => exact ⟨⟨m, some x⟩, by simp [Gains, Field.manufacturerId?, Field.key?], hm, hk⟩
  · rintro ⟨p', ⟨hm, hk⟩, hm', hk'⟩
    exact ⟨by rw [hm', hm, happ, List.append_assoc], by rw [hk', hk, happ, List.append_assoc]⟩

theorem readMember_eq_ok {p q : PartialRecord} {name : String}
    (h : readMember p name s = .ok (q, r)) : ∃ f t u, Blank s (0x3A :: t) ∧ Blank t u ∧
      FieldForm name u f r ∧ p.Gains [(name, f)] q := by
  obtain ⟨m, k⟩ := p
  unfold readMember at h
  split at h
  · rename_i hn
    subst hn
    cases m with
    | some => cases h
    | none =>
      obtain ⟨t, ht, h⟩ := bind_eq_ok_iff.mp h
      obtain ⟨⟨x, u⟩, hu, h⟩ := bind_eq_ok_iff.mp h
      cases h
      obtain ⟨v, hv, hx⟩ := readText_eq_ok_iff.mp (placing_eq_ok_iff.mp hu)
      exact ⟨.manufacturerId x, t, _, readColon_eq_ok_iff.mp (placing_eq_ok_iff.mp ht), hv,
        .manufacturerId hx, by simp [PartialRecord.Gains, Field.manufacturerId?, Field.key?]⟩
  rename_i hm
  split at h
  · rename_i hn
    subst hn
    cases k with
    | some => cases h
    | none =>
      obtain ⟨t, ht, h⟩ := bind_eq_ok_iff.mp h
      obtain ⟨⟨x, u⟩, hu, h⟩ := bind_eq_ok_iff.mp h
      cases h
      obtain ⟨v, text, hv, hx, hs⟩ := readKey_eq_ok_iff.mp hu
      exact ⟨.key x, t, _, readColon_eq_ok_iff.mp (placing_eq_ok_iff.mp ht), hv,
        .key hx hs, by simp [PartialRecord.Gains, Field.manufacturerId?, Field.key?]⟩
  rename_i hk
  obtain ⟨t, ht, h⟩ := bind_eq_ok_iff.mp h
  obtain ⟨u, hu, h⟩ := bind_eq_ok_iff.mp h
  cases h
  obtain ⟨v, w, hv, hw, rfl⟩ := skippedValue_of_skipLoop (placing_eq_ok_iff.mp hu)
  exact ⟨.other, t, v, readColon_eq_ok_iff.mp (placing_eq_ok_iff.mp ht), hv, .other hm hk hw,
    by simp [PartialRecord.Gains, Field.manufacturerId?, Field.key?]⟩

theorem readMember_of_form {p q : PartialRecord} {name : String} {f : Field} {u : Bytes}
    (hs : Blank s (0x3A :: t)) (ht : Blank t u) (hf : FieldForm name u f r)
    (hg : p.Gains [(name, f)] q) (hr : NumberEnd r) : readMember p name s = .ok (q, r) := by
  obtain ⟨m, k⟩ := p
  obtain ⟨m', k'⟩ := q
  obtain ⟨hm, hk⟩ := hg
  have hcolon := placing_eq_ok_iff.mpr (readColon_eq_ok_iff.mpr hs)
  unfold readMember
  cases hf with
  | @manufacturerId v _ x hx =>
    obtain ⟨rfl, rfl, rfl⟩ : m = none ∧ m' = some x ∧ k' = k := by
      cases m <;> cases m' <;> cases k <;> cases k' <;>
        simp_all [Field.manufacturerId?, Field.key?]
    have htext := placing_eq_ok_iff.mpr (readText_eq_ok_iff.mpr ⟨v, ht, hx⟩)
    exact bind_eq_ok_iff.mpr ⟨t, hcolon, bind_eq_ok_iff.mpr ⟨(x, r), htext, rfl⟩⟩
  | @key v _ text x hx hsp =>
    obtain ⟨rfl, rfl, rfl⟩ : k = none ∧ k' = some x ∧ m' = m := by
      cases m <;> cases m' <;> cases k <;> cases k' <;>
        simp_all [Field.manufacturerId?, Field.key?]
    have hkey := readKey_eq_ok_iff.mpr ⟨v, text, ht, hx, hsp⟩
    exact bind_eq_ok_iff.mpr ⟨t, hcolon, bind_eq_ok_iff.mpr ⟨(x, r), hkey, rfl⟩⟩
  | other hne hne' hv =>
    obtain ⟨rfl, rfl⟩ : m' = m ∧ k' = k := by
      cases m <;> cases m' <;> cases k <;> cases k' <;>
        simp_all [Field.manufacturerId?, Field.key?]
    have hskip := placing_eq_ok_iff.mpr ((skipValue_eq_ok_iff hr).mpr ⟨u, ht, hv⟩)
    rw [if_neg (show name ≠ manufacturerIdName from hne), if_neg (show name ≠ keyName from hne')]
    exact bind_eq_ok_iff.mpr ⟨t, hcolon, bind_eq_ok_iff.mpr ⟨r, hskip, rfl⟩⟩

/-! ## 3. Records -/

/-- What follows a member cannot be part of a number. -/
theorem Json.Members.numberEnd {α : Type} {value : String → Bytes → α → Bytes → Prop}
    {ms : List (String × α)} (h : Members value false s ms r) : NumberEnd s := by
  cases h with
  | close h => exact h.numberEnd (by decide)
  | member hc => exact Blank.numberEnd hc (by decide)

theorem Json.Member.length_lt {α : Type} {value : String → Bytes → α → Bytes → Prop}
    {m : String × α} (hv : ∀ name t a u, value name t a u → u.length ≤ t.length)
    (h : Member value s m r) : r.length < s.length := by
  obtain ⟨hs, ht, hu, hb, hw⟩ := h
  have := hs.length_le
  have := StringData.length_lt ht
  have := hu.length_le
  have := hb.length_le
  have := hv _ _ _ _ hw
  simp only [List.length_cons] at *
  omega

theorem Json.Members.length_lt {α : Type} {value : String → Bytes → α → Bytes → Prop}
    {first : Bool} {ms : List (String × α)}
    (hv : ∀ name t a u, value name t a u → u.length ≤ t.length)
    (h : Members value first s ms r) : r.length < s.length := by
  induction h with
  | close h => exact h.length_le
  | member hc hm _ ih =>
    have := Comma.length_le hc
    have := hm.length_lt hv
    omega

theorem FieldForm.length_le {name : String} {f : Field} (h : FieldForm name s f r) :
    r.length ≤ s.length := by
  cases h with
  | manufacturerId h | key h =>
    have := StringData.length_lt h
    simp only [List.length_cons]
    omega
  | other _ _ h => exact Nat.le_of_lt h.length_lt

/-- **What is read as the members of a record are members of one.** -/
theorem members_of_readMembers : ∀ {n : Nat} {first : Bool} {p q : PartialRecord} {s r : Bytes},
    readMembers n first p s = .ok (q, r) → ∃ fields t, r = 0x7D :: t ∧
      Members FieldForm first s fields t ∧ p.Gains fields q
  | 0, _, _, _, _, _, h => by cases h
  | n + 1, first, p, q, s, r, h => by
    obtain ⟨⟨more, u⟩, hnext, h⟩ := bind_eq_ok_iff.mp h
    rw [placing_eq_ok_iff] at hnext
    cases more with
    | false =>
      cases h
      obtain ⟨t, rfl, hs⟩ := nextMember_eq_false_iff.mp hnext
      exact ⟨[], t, rfl, .close hs, PartialRecord.gains_nil.mpr rfl⟩
    | true =>
      obtain ⟨⟨name, v⟩, hname, h⟩ := bind_eq_ok_iff.mp h
      obtain ⟨⟨p', w⟩, hmem, h⟩ := bind_eq_ok_iff.mp h
      obtain ⟨t, hc, ht⟩ := nextMember_eq_true_iff.mp hnext
      rw [placing_eq_ok_iff, readString_eq_ok_iff] at hname
      obtain ⟨f, x, y, hx, hy, hf, hg⟩ := readMember_eq_ok hmem
      obtain ⟨fields, z, rfl, hms, hgs⟩ := members_of_readMembers h
      exact ⟨(name, f) :: fields, z, rfl, .member hc (.mk ht hname hx hy hf) hms,
        PartialRecord.gains_cons.mpr ⟨p', hg, hgs⟩⟩

/-- **The members of a record are read to their end.** -/
theorem readMembers_of_members {first : Bool} {fields : List (String × Field)}
    (h : Members FieldForm first s fields r) : ∀ {n : Nat} {p q : PartialRecord},
    p.Gains fields q → s.length < n → readMembers n first p s = .ok (q, 0x7D :: r) := by
  induction h with
  | @close first s r hs =>
    intro n p q hg hn
    obtain ⟨n, rfl⟩ : ∃ m, n = m + 1 := ⟨n - 1, by omega⟩
    have hnext : nextMember first s = .ok (false, 0x7D :: r) :=
      nextMember_eq_false_iff.mpr ⟨r, rfl, hs⟩
    rw [PartialRecord.gains_nil.mp hg]
    exact bind_eq_ok_iff.mpr ⟨_, placing_eq_ok_iff.mpr hnext, rfl⟩
  | @member first s t u r f fields hc hm h ih =>
    intro n p q hg hn
    obtain ⟨n, rfl⟩ : ∃ m, n = m + 1 := ⟨n - 1, by omega⟩
    obtain ⟨p', hp, hq⟩ := PartialRecord.gains_cons.mp hg
    have hlen := hm.length_lt fun _ _ _ _ => FieldForm.length_le
    have hle := Comma.length_le hc
    obtain ⟨hs, ht, hu, hb, hw⟩ := hm
    have hnext := nextMember_eq_true_iff.mpr ⟨t, hc, hs⟩
    have hmem := readMember_of_form hu hb hw hp (h.numberEnd)
    exact bind_eq_ok_iff.mpr ⟨_, placing_eq_ok_iff.mpr hnext,
      bind_eq_ok_iff.mpr ⟨_, placing_eq_ok_iff.mpr (readString_eq_ok_iff.mpr ht),
        bind_eq_ok_iff.mpr ⟨_, hmem, ih hq (by omega)⟩⟩⟩

theorem complete_eq_ok_iff {p : PartialRecord} {record : KeyRecord} :
    p.complete = .ok record ↔ p = ⟨some record.manufacturerId, some record.key⟩ := by
  obtain ⟨m, k⟩ := p
  obtain ⟨m', k'⟩ := record
  cases m <;> cases k <;> simp [PartialRecord.complete]

/-- The members of a complete record. -/
theorem PartialRecord.gains_complete {fields : List (String × Field)} {m : String} {k : DeviceKey} :
    Gains ⟨none, none⟩ fields ⟨some m, some k⟩ ↔
      fields.filterMap (·.2.manufacturerId?) = [m] ∧ fields.filterMap (·.2.key?) = [k] := by
  unfold Gains
  simp [eq_comm]

theorem readObjectRecord_eq_ok_iff {record : KeyRecord} :
    readObjectRecord s = .ok (record, r) ↔ RecordForm (0x7B :: s) record r := by
  unfold readObjectRecord
  rw [bind_eq_ok_iff]
  constructor
  · rintro ⟨⟨p, u⟩, hread, h⟩
    obtain ⟨fields, t, rfl, hms, hg⟩ := members_of_readMembers hread
    simp only at h
    split at h
    · rename_i record' hc
      cases h
      obtain ⟨m, k⟩ := record
      rw [complete_eq_ok_iff.mp hc] at hg
      obtain ⟨hm, hk⟩ := PartialRecord.gains_complete.mp hg
      exact .object hms hm hk
    · cases h
  · intro h
    cases h with
    | object h hm hk =>
      exact ⟨_, readMembers_of_members h (PartialRecord.gains_complete.mpr ⟨hm, hk⟩)
        (Nat.lt_succ_self _), rfl⟩

theorem readListRecord_eq_ok_iff {record : KeyRecord} :
    readListRecord s = .ok (record, r) ↔ RecordForm (0x5B :: s) record r := by
  unfold readListRecord
  rw [bind_eq_ok_iff]
  constructor
  · rintro ⟨⟨more, t⟩, hnext, h⟩
    cases more with
    | false => cases h
    | true =>
      obtain ⟨⟨m, u⟩, hm, h⟩ := bind_eq_ok_iff.mp h
      obtain ⟨⟨more, v⟩, hnext', h⟩ := bind_eq_ok_iff.mp h
      cases more with
      | false => cases h
      | true =>
        obtain ⟨⟨k, w⟩, hk, h⟩ := bind_eq_ok_iff.mp h
        obtain ⟨x, hx, h⟩ := bind_eq_ok_iff.mp h
        cases h
        rw [placing_eq_ok_iff] at hnext hnext' hm hx
        obtain ⟨_, rfl, hs⟩ := nextElement_eq_true hnext
        obtain ⟨y, hc, hv⟩ := nextElement_eq_true hnext'
        obtain ⟨a, ha, htext⟩ := readText_eq_ok_iff.mp hm
        obtain ⟨b, text, hb, hkey, hsp⟩ := readKey_eq_ok_iff.mp hk
        exact .list (hs.trans ha) htext hc (hv.trans hb) hkey hsp (closeList_eq_ok_iff.mp hx)
  · intro h
    cases h with
    | @list _ t u v w x _ m text k hs ht hu hv hw hk hx =>
      have hm : readText (0x22 :: t) = .ok (m, u) := readText_eq_ok_iff.mpr ⟨t, .refl _, ht⟩
      have hkey : readKey (0x22 :: w) = .ok (k, x) :=
        readKey_eq_ok_iff.mpr ⟨w, text, .refl _, hw, hk⟩
      have hnext : nextElement true s = .ok (true, 0x22 :: t) := nextElement_of_string rfl hs
      have hnext' : nextElement false u = .ok (true, 0x22 :: w) := nextElement_of_string hu hv
      refine ⟨_, placing_eq_ok_iff.mpr hnext, bind_eq_ok_iff.mpr ⟨_, placing_eq_ok_iff.mpr hm,
        bind_eq_ok_iff.mpr ⟨_, placing_eq_ok_iff.mpr hnext', bind_eq_ok_iff.mpr ⟨_, hkey,
          bind_eq_ok_iff.mpr ⟨_, placing_eq_ok_iff.mpr (closeList_eq_ok_iff.mpr hx), rfl⟩⟩⟩⟩⟩

/-- **A record is read just when it has the form of one.** -/
theorem readRecord_eq_ok_iff {record : KeyRecord} :
    readRecord s = .ok (record, r) ↔ ∃ t, Blank s t ∧ RecordForm t record r := by
  constructor
  · intro h
    unfold readRecord at h
    split at h
    · cases h
    rename_i b t hs
    split at h
    · subst b
      exact ⟨_, (skipSpace_eq_cons_iff.mp hs).1,
        readObjectRecord_eq_ok_iff.mp (mapError_eq_ok_iff.mp h)⟩
    split at h
    · subst b
      exact ⟨_, (skipSpace_eq_cons_iff.mp hs).1,
        readListRecord_eq_ok_iff.mp (mapError_eq_ok_iff.mp h)⟩
    · exact absurd h (refuse_ne_ok _ _ _)
  · rintro ⟨t, hs, ht⟩
    unfold readRecord
    cases ht with
    | object h hm hk =>
      rw [skipSpace_eq_cons_iff.mpr ⟨hs, rfl⟩]
      exact mapError_eq_ok_iff.mpr (readObjectRecord_eq_ok_iff.mpr (.object h hm hk))
    | list h ht hu hv hw hk hx =>
      rw [skipSpace_eq_cons_iff.mpr ⟨hs, rfl⟩]
      exact mapError_eq_ok_iff.mpr (readListRecord_eq_ok_iff.mpr (.list h ht hu hv hw hk hx))

end DeviceKeys
