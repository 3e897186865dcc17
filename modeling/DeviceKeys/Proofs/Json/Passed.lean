import Mathlib.Data.List.Forall2
import DeviceKeys.Proofs.Json.Grammar
import DeviceKeys.Proofs.Text.Decoding

/-! # What a document says whatever the strings that are passed over hold

A part of a document that has a form is spelled by pieces (`Spelled`): texts, and the contents of
the strings that are passed over. Where each content is put in place of another the part has the
form still, and it says the same.

* `Ascii`: a part whose bytes are all below 0x80, such as blanks, numbers and escapes.
* `StringForm.spelled`: a string that is wanted is a text as it stands in the document, since what
  it stands for is one. Where it has an escape, the bytes in front of it and those behind it are
  texts by themselves (`Utf8.IsText.of_char`).
* `SkippedString.spelled`: a string that is passed over is the one part of which nothing is asked.
* `SkippedValue.spelled`, `Members.spelled`: so is all that is made of these, at any depth.
-/

namespace DeviceKeys.Json

open Utf8 (IsText isText_of_lt)

variable {R Q P : Bytes → Bytes → Prop} {s t r u : Bytes} {b : UInt8}

/-! ## 1. Parts of bytes below 0x80 -/

/-- The relation leads over bytes below 0x80, whatever stands behind them. -/
def Ascii (R : Bytes → Bytes → Prop) (s r : Bytes) : Prop :=
  ∃ u, s = u ++ r ∧ (∀ b ∈ u, b.toNat < 0x80) ∧ ∀ t, R (u ++ t) t

namespace Ascii

theorem refl (h : ∀ t, R t t) (s : Bytes) : Ascii R s s := ⟨[], rfl, List.forall_mem_nil _, h⟩

theorem append (h : Ascii R s t) (k : Ascii Q t r) (hP : ∀ {x y z}, R x y → Q y z → P x z) :
    Ascii P s r := by
  obtain ⟨u, rfl, hu, hR⟩ := h
  obtain ⟨v, rfl, hv, hQ⟩ := k
  refine ⟨u ++ v, (List.append_assoc u v r).symm, List.forall_mem_append.mpr ⟨hu, hv⟩,
    fun t => ?_⟩
  rw [List.append_assoc]
  exact hP (hR _) (hQ _)

theorem cons (hb : b.toNat < 0x80) (h : Ascii R s r) (hP : ∀ {x y}, R x y → P (b :: x) y) :
    Ascii P (b :: s) r := by
  obtain ⟨u, rfl, hu, hR⟩ := h
  exact ⟨b :: u, rfl, List.forall_mem_cons.mpr ⟨hb, hu⟩, fun t => hP (hR t)⟩

/-- The byte behind a part belongs to what stands in front of a token. -/
theorem token (h : Ascii R s (b :: r)) (hb : b.toNat < 0x80) :
    Ascii (fun x y => R x (b :: y)) s r := by
  obtain ⟨u, rfl, hu, hR⟩ := h
  refine ⟨u ++ [b], by simp, List.forall_mem_append.mpr ⟨hu, by simpa using hb⟩, fun t => ?_⟩
  rw [List.append_assoc]
  exact hR (b :: t)

end Ascii

theorem lt_of_isSpace (h : isSpace b = true) : b.toNat < 0x80 := by
  simp only [isSpace, Bool.or_eq_true, decide_eq_true_eq] at h
  rcases h with ((rfl | rfl) | rfl) | rfl <;> decide

theorem lt_of_isDigit (h : isDigit b = true) : b.toNat < 0x80 := by
  simp only [isDigit, Bool.and_eq_true, decide_eq_true_eq, UInt8.le_iff_toNat_le] at h
  exact Nat.lt_of_le_of_lt h.2 (by decide)

theorem lt_of_hexValue? {n : Nat} (h : hexValue? b = some n) : b.toNat < 0x80 := by
  unfold hexValue? at h
  simp only at h
  split at h
  · omega
  split at h
  · omega
  split at h
  · omega
  · cases h

theorem lt_of_mem_letters {c : Char} (h : (b, c) ∈ letters) : b.toNat < 0x80 := by
  have hall : ∀ e ∈ letters, e.1.toNat < 0x80 := by decide
  exact hall _ h

theorem Blank.ascii (h : Blank s r) : Ascii Blank s r := by
  obtain ⟨ws, rfl, hws⟩ := h
  exact ⟨ws, rfl, fun b hb => lt_of_isSpace (hws b hb), fun t => ⟨ws, rfl, hws⟩⟩

theorem Comma.ascii : ∀ {first : Bool}, Comma first s r → Ascii (Comma first) s r
  | true, h => by
    obtain rfl : s = r := h
    exact .refl (fun _ => rfl) s
  | false, h => (Blank.ascii h).token (by decide)

theorem FourDigits.ascii {n : Nat} (h : FourDigits s n r) :
    Ascii (fun x y => FourDigits x n y) s r := by
  cases h with
  | @mk a b c d i j k l _ ha hb hc hd =>
    refine ⟨[a, b, c, d], rfl, ?_, fun t => .mk t ha hb hc hd⟩
    simp [lt_of_hexValue? ha, lt_of_hexValue? hb, lt_of_hexValue? hc, lt_of_hexValue? hd]

theorem Escape.ascii {c : Char} (h : Escape s c r) : Ascii (fun x y => Escape x c y) s r := by
  cases h with
  | letter _ h =>
    exact .cons (lt_of_mem_letters h) (.refl (fun _ => rfl) r) fun hxy => hxy ▸ .letter _ h
  | digits h hc => exact .cons (by decide) h.ascii fun hx => .digits hx hc
  | pair hs ht hhigh hlow hc =>
    refine .cons (by decide) ?_ id
    exact ((hs.ascii.token (by decide)).token (by decide)).append ht.ascii fun hx hy =>
      .pair hx hy hhigh hlow hc

theorem Digits.ascii (h : Digits s r) : Ascii Digits s r := by
  obtain ⟨d, ds, rfl, hds⟩ := h
  exact ⟨d :: ds, rfl, fun b hb => lt_of_isDigit (hds b hb), fun t => ⟨d, ds, rfl, hds⟩⟩

theorem WholePart.ascii (h : WholePart s r) : Ascii WholePart s r := by
  rcases h with rfl | ⟨hne, d, ds, rfl, hds⟩
  · exact .cons (by decide) (.refl (fun _ => rfl) r) fun hxy => .inl (hxy ▸ rfl)
  · exact ⟨d :: ds, rfl, fun b hb => lt_of_isDigit (hds b hb),
      fun t => .inr ⟨hne, d, ds, rfl, hds⟩⟩

theorem Fraction.ascii (h : Fraction s r) : Ascii Fraction s r := by
  rcases h with rfl | ⟨t, rfl, ht⟩
  · exact .refl (fun _ => .inl rfl) s
  · exact .cons (by decide) ht.ascii fun hx => .inr ⟨_, rfl, hx⟩

theorem Exponent.ascii (h : Exponent s r) : Ascii Exponent s r := by
  rcases h with rfl | ⟨mark, t, u, rfl, hmark, ht, hu⟩
  · exact .refl (fun _ => .inl rfl) s
  have hlt : mark.toNat < 0x80 := by
    simp only [isExponentMark, Bool.or_eq_true, decide_eq_true_eq] at hmark
    rcases hmark with rfl | rfl <;> decide
  have hsigned {sign : UInt8} (hs : sign.toNat < 0x80) :
      Ascii (fun x y => ∃ v, x = sign :: v ∧ Digits v y) (sign :: u) r :=
    .cons hs hu.ascii fun hv => ⟨_, rfl, hv⟩
  rcases ht with rfl | rfl | rfl
  · exact .cons hlt hu.ascii fun hx => .inr ⟨mark, _, _, rfl, hmark, .inl rfl, hx⟩
  · exact .cons hlt (hsigned (by decide)) fun ⟨v, hx, hv⟩ =>
      .inr ⟨mark, _, v, rfl, hmark, .inr (.inl hx), hv⟩
  · exact .cons hlt (hsigned (by decide)) fun ⟨v, hx, hv⟩ =>
      .inr ⟨mark, _, v, rfl, hmark, .inr (.inr hx), hv⟩

theorem Magnitude.ascii (h : Magnitude s r) : Ascii Magnitude s r := by
  obtain ⟨t, u, hs, ht, hu⟩ := h
  have htail : Ascii (fun x y => ∃ z, Fraction x z ∧ Exponent z y) t r :=
    ht.ascii.append hu.ascii fun hx hy => ⟨_, hx, hy⟩
  exact hs.ascii.append htail fun hx ⟨_, hy, hz⟩ => ⟨_, _, hx, hy, hz⟩

/-! ## 2. Pieces -/

/-- A piece of a document: a text, or the contents of a string that is passed over. -/
inductive Piece where
  | text (cs : List Char)
  | passed (s : Bytes)

/-- The bytes of a piece. -/
def Piece.bytes : Piece → Bytes
  | .text cs => Utf8.encode cs
  | .passed s => s

/-- The bytes of some pieces. -/
def bytesOf (pieces : List Piece) : Bytes := pieces.flatMap Piece.bytes

theorem bytesOf_append (ps qs : List Piece) : bytesOf (ps ++ qs) = bytesOf ps ++ bytesOf qs :=
  List.flatMap_append

/-- The bytes can be the contents of a string that is passed over. -/
def Skippable (s : Bytes) : Prop := ∀ r, SkippedString (s ++ 0x22 :: r) r

/-- A text is like itself only, and contents that are passed over are like any others. -/
inductive Piece.Alike : Piece → Piece → Prop
  | text (cs : List Char) : Alike (.text cs) (.text cs)
  | passed {s s' : Bytes} (hs : Skippable s) (hs' : Skippable s') : Alike (.passed s) (.passed s')

/-- The relation leads over the bytes of some pieces, and over those of any others that are like
    them, whatever stands behind. -/
def Spelled (R : Bytes → Bytes → Prop) (s r : Bytes) : Prop :=
  ∃ pieces, s = bytesOf pieces ++ r ∧ List.Forall₂ Piece.Alike pieces pieces ∧
    ∀ pieces', List.Forall₂ Piece.Alike pieces pieces' → ∀ t, R (bytesOf pieces' ++ t) t

/-- What is like the pieces of two lists is made of what is like those of each. -/
theorem forall₂_alike_append : ∀ {ps qs l : List Piece}, List.Forall₂ Piece.Alike (ps ++ qs) l →
    ∃ ps' qs', l = ps' ++ qs' ∧ List.Forall₂ Piece.Alike ps ps' ∧ List.Forall₂ Piece.Alike qs qs'
  | [], _, l, h => ⟨[], l, rfl, .nil, h⟩
  | _ :: _, _, _, .cons hp h => by
    obtain ⟨ps', qs', rfl, hps, hqs⟩ := forall₂_alike_append h
    exact ⟨_ :: ps', qs', rfl, .cons hp hps, hqs⟩

namespace Spelled

theorem of_text (hu : IsText u) (h : ∀ t, R (u ++ t) t) : Spelled R (u ++ r) r := by
  obtain ⟨cs, rfl⟩ := hu
  have hbytes (t : Bytes) : bytesOf [.text cs] ++ t = Utf8.encode cs ++ t := by
    simp [bytesOf, Piece.bytes]
  refine ⟨[.text cs], (hbytes r).symm, .cons (.text cs) .nil, fun pieces' h' t => ?_⟩
  cases h' with
  | cons hp hnil =>
    cases hp
    cases hnil
    rw [hbytes]
    exact h t

theorem of_ascii (h : Ascii R s r) : Spelled R s r := by
  obtain ⟨u, rfl, hu, hR⟩ := h
  exact .of_text (isText_of_lt hu) hR

/-- Blanks in front of a token. -/
theorem of_token (h : Blank s (b :: r)) (hb : b.toNat < 0x80) :
    Spelled (fun x y => Blank x (b :: y)) s r :=
  .of_ascii (h.ascii.token hb)

theorem append (h : Spelled R s t) (k : Spelled Q t r) (hP : ∀ {x y z}, R x y → Q y z → P x z) :
    Spelled P s r := by
  obtain ⟨ps, rfl, hps, hR⟩ := h
  obtain ⟨qs, rfl, hqs, hQ⟩ := k
  refine ⟨ps ++ qs, by rw [bytesOf_append, List.append_assoc], List.rel_append hps hqs,
    fun pieces' h' t => ?_⟩
  obtain ⟨ps', qs', rfl, hps', hqs'⟩ := forall₂_alike_append h'
  rw [bytesOf_append, List.append_assoc]
  exact hP (hR ps' hps' _) (hQ qs' hqs' t)

theorem mono (h : Spelled R s r) (hP : ∀ {x y}, R x y → P x y) : Spelled P s r := by
  obtain ⟨ps, hs, hps, hR⟩ := h
  exact ⟨ps, hs, hps, fun ps' h' t => hP (hR ps' h' t)⟩

theorem cons (hb : b.toNat < 0x80) (h : Spelled R s r) (hP : ∀ {x y}, R x y → P (b :: x) y) :
    Spelled P (b :: s) r := by
  have hbyte : Spelled (fun x y => x = b :: y) (b :: s) s :=
    .of_ascii (.cons hb (.refl (fun _ => rfl) s) (congrArg (b :: ·)))
  exact hbyte.append h fun hx hy => hx ▸ hP hy

end Spelled

/-! ## 3. Strings -/

/-- What an escape is written with is below 0x80, so it parts the text of its string. -/
theorem StringData.exists_text {data : Bytes} (h : StringData s data r) : ∃ u, s = u ++ r ∧
    (∀ t, StringData (u ++ t) data t) ∧ ∀ pre, IsText (pre ++ data) → IsText (pre ++ u) := by
  induction h with
  | close r =>
    refine ⟨[0x22], rfl, fun t => .close t, fun pre h => ?_⟩
    rw [List.append_nil] at h
    exact h.append (isText_of_lt (List.forall_mem_singleton.mpr (by decide)))
  | @byte b s data r hb _ ih =>
    obtain ⟨u, rfl, hdata, htext⟩ := ih
    refine ⟨b :: u, rfl, fun t => .byte hb (hdata t), fun pre h => ?_⟩
    have hrest := htext (pre ++ [b]) (by rwa [List.append_assoc])
    rwa [List.append_assoc] at hrest
  | @escape s t data r c he _ ih =>
    obtain ⟨u, rfl, hdata, htext⟩ := ih
    obtain ⟨v, rfl, hv, hescape⟩ := he.ascii
    refine ⟨0x5C :: (v ++ u), by simp, fun t => ?_, fun pre h => ?_⟩
    · rw [List.cons_append, List.append_assoc]
      exact .escape (hescape _) (hdata t)
    · obtain ⟨hpre, hrest⟩ := h.of_char
      have hwritten : IsText (0x5C :: v) :=
        isText_of_lt (List.forall_mem_cons.mpr ⟨by decide, hv⟩)
      have hu : IsText u := htext [] hrest
      exact hpre.append (hwritten.append hu)

/-- **A string that is wanted is a text.** -/
theorem StringForm.spelled {text : String} (h : StringForm s text r) :
    Spelled (fun x y => StringForm x text y) s r := by
  obtain ⟨u, rfl, hdata, htext⟩ := StringData.exists_text h
  exact .of_text (htext [] ⟨text.toList, rfl⟩) hdata

theorem SkippedString.exists_skippable (h : SkippedString s r) :
    ∃ u, s = u ++ 0x22 :: r ∧ Skippable u := by
  induction h with
  | close r => exact ⟨[], rfl, fun t => .close t⟩
  | @byte b s r hb _ ih =>
    obtain ⟨u, rfl, hu⟩ := ih
    exact ⟨b :: u, rfl, fun t => .byte hb (hu t)⟩
  | @letter b c s r hb _ ih =>
    obtain ⟨u, rfl, hu⟩ := ih
    exact ⟨0x5C :: b :: u, rfl, fun t => .letter hb (hu t)⟩
  | @digits s t r n hs _ ih =>
    obtain ⟨u, rfl, hu⟩ := ih
    obtain ⟨v, rfl, -, hdigits⟩ := hs.ascii
    refine ⟨0x5C :: 0x75 :: (v ++ u), by simp, fun t => ?_⟩
    rw [List.cons_append, List.cons_append, List.append_assoc]
    exact .digits (hdigits _) (hu t)

/-- **A string that is passed over may hold whatever can be passed over.** -/
theorem SkippedString.spelled (h : SkippedString s r) : Spelled SkippedString s r := by
  obtain ⟨u, rfl, hu⟩ := h.exists_skippable
  have hbytes (v t : Bytes) : bytesOf [.passed v, .text ['"']] ++ t = v ++ 0x22 :: t := by
    have hquote : Utf8.encode ['"'] = [0x22] := by decide
    simp [bytesOf, Piece.bytes, hquote]
  refine ⟨[.passed u, .text ['"']], (hbytes u r).symm,
    .cons (.passed hu hu) (.cons (.text _) .nil), fun pieces' h' t => ?_⟩
  cases h' with
  | cons hp hrest =>
    cases hp with
    | passed _ hu' =>
      cases hrest with
      | cons hq hnil =>
        cases hq
        cases hnil
        rw [hbytes]
        exact hu' t

/-! ## 4. Values and members -/

theorem Scalar.spelled (h : Scalar s r) : Spelled Scalar s r := by
  cases h with
  | @word w _ h => exact .of_text ⟨w.toList, rfl⟩ fun t => .word t h
  | positive h => exact (Spelled.of_ascii h.ascii).mono .positive
  | negative h => exact .cons (by decide) (.of_ascii h.ascii) .negative
  | string h => exact .cons (by decide) h.spelled .string

theorem Bracket.Lead.spelled : ∀ {f : Bracket}, f.Lead s r → Spelled f.Lead s r
  | .list, h => .of_ascii (Blank.ascii h)
  | .object, ⟨t, u, v, hs, ht, hu, hv⟩ => by
    have htail : Spelled (fun x y => ∃ z, Blank x (0x3A :: z) ∧ Blank z y) u r :=
      (Spelled.of_token hu (by decide)).append (.of_ascii hv.ascii)
        fun hx hy => ⟨_, hx, hy⟩
    have hname : Spelled (fun x y => ∃ z w, SkippedString x z ∧ Blank z (0x3A :: w) ∧ Blank w y)
        t r := ht.spelled.append htail fun hx ⟨_, hy, hz⟩ => ⟨_, _, hx, hy, hz⟩
    exact (Spelled.of_token hs (by decide)).append hname
      fun hx ⟨_, _, hy, hz, hw⟩ => ⟨_, _, _, hx, hy, hz, hw⟩

mutual

/-- **A value that is passed over may hold any strings that can be passed over.** -/
theorem SkippedValue.spelled {s r : Bytes} : SkippedValue s r → Spelled SkippedValue s r
  | .scalar h => h.spelled.mono .scalar
  | .bracket (f := f) h => .cons (by cases f <;> decide) h.spelled .bracket

theorem SkippedItems.spelled {f : Bracket} {first : Bool} {s r : Bytes} :
    SkippedItems f first s r → Spelled (SkippedItems f first) s r
  | .close h =>
    (Spelled.of_token h (by cases f <;> decide)).mono .close
  | .item hc hl hv h => by
    have htail : Spelled (fun x y => ∃ z, SkippedValue x z ∧ SkippedItems f false z y) _ r :=
      hv.spelled.append h.spelled fun hx hy => ⟨_, hx, hy⟩
    have hitem : Spelled
        (fun x y => ∃ z w, f.Lead x z ∧ SkippedValue z w ∧ SkippedItems f false w y) _ r :=
      hl.spelled.append htail fun hx ⟨_, hy, hz⟩ => ⟨_, _, hx, hy, hz⟩
    exact (Spelled.of_ascii hc.ascii).append hitem fun hx ⟨_, _, hy, hz, hw⟩ =>
      .item hx hy hz hw

end

section Members

variable {α : Type} {value : String → Bytes → α → Bytes → Prop}

theorem Member.spelled {m : String × α} (hvalue : ∀ name a s r, value name s a r →
    Spelled (fun x y => value name x a y) s r) (h : Member value s m r) :
    Spelled (fun x y => Member value x m y) s r := by
  obtain ⟨name, a⟩ := m
  obtain ⟨hs, ht, hu, hv, hw⟩ := h
  have hback : Spelled (fun x y => ∃ z, Blank x z ∧ value name z a y) _ r :=
    (Spelled.of_ascii hv.ascii).append (hvalue _ _ _ _ hw) fun hx hy => ⟨_, hx, hy⟩
  have hcolon : Spelled
      (fun x y => ∃ z w, Blank x (0x3A :: z) ∧ Blank z w ∧ value name w a y) _ r :=
    (Spelled.of_token hu (by decide)).append hback
      fun hx ⟨_, hy, hz⟩ => ⟨_, _, hx, hy, hz⟩
  have hname : Spelled (fun x y => ∃ z w k, StringForm x name z ∧ Blank z (0x3A :: w) ∧
      Blank w k ∧ value name k a y) _ r :=
    (StringForm.spelled ht).append hcolon fun hx ⟨_, _, hy, hz, hw⟩ => ⟨_, _, _, hx, hy, hz, hw⟩
  exact (Spelled.of_token hs (by decide)).append hname
    fun hx ⟨_, _, _, hy, hz, hw, hk⟩ => .mk hx hy hz hw hk

/-- **Members are spelled if their values are.** -/
theorem Members.spelled {first : Bool} {ms : List (String × α)}
    (hvalue : ∀ name a s r, value name s a r → Spelled (fun x y => value name x a y) s r)
    (h : Members value first s ms r) : Spelled (fun x y => Members value first x ms y) s r := by
  induction h with
  | close h => exact (Spelled.of_token h (by decide)).mono .close
  | @member first s t u r m ms hc hm _ ih =>
    have htail : Spelled (fun x y => ∃ z, Member value x m z ∧ Members value false z ms y) t r :=
      (hm.spelled hvalue).append ih fun hx hy => ⟨_, hx, hy⟩
    exact (Spelled.of_ascii hc.ascii).append htail fun hx ⟨_, hy, hz⟩ => .member hx hy hz

end Members

end DeviceKeys.Json
