import DeviceKeys.Proofs.FileSystem.Joining

/-! # The lexical ancestors of a path

What `Path.ancestors` gives, told by the components of the lexical reading (`elements`): the anchor,
if there is one, and the parts behind it that mean something.

* `Below p q`: `q` is spelled by the first bytes of `p`, its components are the first of those of
  `p`, but not all, and it ends with the last of them.
* `Cut p q`: the same by the parts between slashes. The parent is the longest cut
  (`exists_parent?`), so the ancestors are the path and all that it is below (`mem_ancestors_iff`),
  and each is longer than the ones that follow (`pairwise_ancestors`).
-/

namespace DeviceKeys.Path

variable {p q p' : Path} {parts rest : List Bytes}

/-! ## 1. The components of the lexical reading -/

/-- The components of the lexical reading: the anchor, if there is one, and the parts behind it that
    mean something. -/
def elements (p : Path) : List Bytes :=
  (if p.anchor = [] then [] else [p.anchor]) ++ (splitSlash p.body).filter isMeant

example : elements (.ofString "./w//app/.././src/") =
    [".", "w", "app", "..", "src"].map Utf8.ofString := by decide

/-- Where two byte sequences meet, the last part of the one and the first of the other are one. -/
theorem splitSlash_append_of_parts {t first : Bytes} (ht : splitSlash t = first :: rest) :
    ∀ {s : Bytes} {front : List Bytes} {last : Bytes}, splitSlash s = front ++ [last] →
      splitSlash (s ++ t) = front ++ (last ++ first) :: rest
  | [], front, last, hs => by
    cases front with
    | nil =>
      cases hs
      exact ht
    | cons part front => cases front <;> cases hs
  | b :: s, front, last, hs => by
    obtain ⟨init, last', hinit⟩ : ∃ init last', splitSlash s = init ++ [last'] :=
      ⟨_, _, (List.dropLast_concat_getLast (splitSlash_ne_nil s)).symm⟩
    have ih := splitSlash_append_of_parts ht hinit
    rw [splitSlash, hinit] at hs
    rw [List.cons_append, splitSlash, ih]
    split at hs
    · rename_i hb
      have hs : ([] :: init) ++ [last'] = front ++ [last] := hs
      obtain ⟨rfl, hlast⟩ := List.append_inj' hs rfl
      cases hlast
      rw [if_pos hb]
      rfl
    · rename_i hb
      rw [if_neg hb]
      cases init with
      | nil =>
        have hs : [] ++ [b :: last'] = front ++ [last] := hs
        obtain ⟨rfl, hlast⟩ := List.append_inj' hs rfl
        cases hlast
        rfl
      | cons part init =>
        have hs : ((b :: part) :: init) ++ [last'] = front ++ [last] := hs
        obtain ⟨rfl, hlast⟩ := List.append_inj' hs rfl
        cases hlast
        rfl

theorem isMeant_append {part : Bytes} (h : isMeant part = true) (more : Bytes) :
    isMeant (part ++ more) = true := by
  have hne : part ≠ [] := by
    rintro rfl
    cases h
  have hdot : part ++ more ≠ [dot] := by
    intro he
    rcases List.append_eq_singleton_iff.mp he with ⟨rfl, -⟩ | ⟨rfl, -⟩ <;> cases h
  simp [isMeant, isIdle, hne, hdot]

/-! ## 2. A path cut behind some of its parts -/

theorem filter_splitSlash_joinSlash (h : ∀ part ∈ parts, slash ∉ part) :
    (splitSlash (joinSlash parts)).filter isMeant = parts.filter isMeant := by
  by_cases hparts : parts = []
  · rw [hparts]
    rfl
  · rw [splitSlash_joinSlash hparts h]

/-- What an anchor and some of the parts behind it spell has just those components. -/
theorem elements_anchored (hsplit : splitSlash p.body = parts ++ rest) (htrim : Trimmed parts) :
    elements ⟨p.anchor ++ joinSlash parts⟩ =
      (if p.anchor = [] then [] else [p.anchor]) ++ parts.filter isMeant := by
  rw [elements, anchor_anchored hsplit htrim, body_anchored hsplit htrim,
    filter_splitSlash_joinSlash (slash_notMem_of_split hsplit)]

/-- What is left of a path when it is cut between two parts, behind one that means something or in
    front of all, while another that means something comes later. A dot in front can be cut off as
    well. -/
inductive Cut (p : Path) : Path → Prop
  | behind {parts rest : List Bytes} (split : splitSlash p.body = parts ++ rest)
      (trimmed : Trimmed parts) (more : rest.filter isMeant ≠ []) :
      Cut p ⟨p.anchor ++ joinSlash parts⟩
  | dot (anchor : p.anchor = [dot]) : Cut p ⟨[]⟩

theorem cut_of_parent? (h : p.parent? = some p') : Cut p p' := by
  rcases p.parent?_cases with ⟨parts, rest, last, hsplit, htrim, hrest, hp⟩ | ⟨-, hp⟩
  · cases h.symm.trans hp
    exact .behind hsplit htrim (by simp [hrest])
  · rw [hp] at h
    split at h
    · cases h
      exact .dot ‹_›
    · cases h

theorem Trimmed.filter_ne_nil {more : List Bytes} (h : Trimmed (parts ++ more)) (hne : more ≠ []) :
    more.filter isMeant ≠ [] := fun hnil => by
  have hlast : (parts ++ more).getLast? = some (more.getLast hne) := by
    rw [List.getLast?_append, List.getLast?_eq_some_getLast hne]
    rfl
  exact List.filter_eq_nil_iff.mp hnil _ (List.getLast_mem hne) (h _ hlast)

/-- **The parent is the longest cut**: every other is one of the parent. -/
theorem exists_parent? (h : Cut p q) : ∃ p', p.parent? = some p' ∧ (q = p' ∨ Cut p' q) := by
  rcases p.parent?_cases with ⟨parts₀, rest₀, last, hsplit₀, htrim₀, hlast, hp⟩ | ⟨hnone, hp⟩
  · refine ⟨_, hp, ?_⟩
    have hanchor := anchor_anchored hsplit₀ htrim₀
    have hbody := body_anchored hsplit₀ htrim₀
    cases h with
    | @behind parts rest hsplit htrim hmore =>
      rcases List.append_eq_append_iff.mp (hsplit.symm.trans hsplit₀) with
        ⟨m, rfl, -⟩ | ⟨m, rfl, hrest⟩
      · by_cases hm : m = []
        · rw [hm, List.append_nil]
          exact .inl rfl
        · have hparts : splitSlash (joinSlash (parts ++ m)) = parts ++ m :=
            splitSlash_joinSlash (by simp [hm]) (slash_notMem_of_split hsplit₀)
          have hcut : Cut ⟨p.anchor ++ joinSlash (parts ++ m)⟩ _ :=
            .behind ((congrArg splitSlash hbody).trans hparts) htrim (htrim₀.filter_ne_nil hm)
          rw [hanchor] at hcut
          exact .inr hcut
      · -- a longer cut would stand behind the last part that means something
        have hm : m = [] := Decidable.byContradiction fun hm => by
          rw [hrest, List.filter_append] at hlast
          rcases List.append_eq_singleton_iff.mp hlast with ⟨hnil, -⟩ | ⟨-, hnil⟩
          · exact htrim.filter_ne_nil hm hnil
          · exact hmore hnil
        rw [hm, List.append_nil]
        exact .inl rfl
    | dot hdot => exact .inr (.dot (hanchor.trans hdot))
  · cases h with
    | @behind parts rest hsplit _ hmore =>
      rw [hsplit, List.filter_append] at hnone
      exact absurd (List.append_eq_nil_iff.mp hnone).2 hmore
    | dot hdot => exact ⟨_, hp.trans (if_pos hdot), .inl rfl⟩

/-! ## 3. What a path is below -/

/-- The path ends with its last component: neither a slash nor an idle dot stands behind it. -/
def EndsInElement (p : Path) : Prop :=
  p.body = [] ∨ ∃ part, (splitSlash p.body).getLast? = some part ∧ isMeant part = true

/-- The path `p` is below `q`: the first bytes of `p` spell `q`, the components of `q` are the first
    of those of `p`, but not all, and `q` ends with the last of them. -/
structure Below (p q : Path) : Prop where
  start : q.bytes <+: p.bytes
  elements : q.elements <+: p.elements
  fewer : q.elements.length < p.elements.length
  isAbsolute : q.isAbsolute = p.isAbsolute
  ends : q.EndsInElement

/-- The lexical ancestors of a path are the path itself and those it is below. -/
def HasAncestor (p q : Path) : Prop := q = p ∨ Below p q

theorem Cut.below (h : Cut p q) : Below p q := by
  cases h with
  | @behind parts rest hsplit htrim hmore =>
    have hp : p.elements = elements ⟨p.anchor ++ joinSlash parts⟩ ++ rest.filter isMeant := by
      rw [elements_anchored hsplit htrim, Path.elements, hsplit, List.filter_append,
        List.append_assoc]
    refine ⟨anchored_start hsplit, hp ▸ List.prefix_append _ _, ?_, ?_, ?_⟩
    · have hpos := List.length_pos_iff.mpr hmore
      rw [hp, List.length_append]
      omega
    · rw [isAbsolute_eq_anchor, isAbsolute_eq_anchor, anchor_anchored hsplit htrim]
    · unfold EndsInElement
      rw [body_anchored hsplit htrim]
      by_cases hparts : parts = []
      · exact .inl (by rw [hparts]; rfl)
      · refine .inr ⟨parts.getLast hparts, ?_, htrim _ (List.getLast?_eq_some_getLast hparts)⟩
        rw [splitSlash_joinSlash hparts (slash_notMem_of_split hsplit),
          List.getLast?_eq_some_getLast hparts]
  | dot hdot =>
    refine ⟨List.nil_prefix, List.nil_prefix, ?_, ?_, .inl rfl⟩
    · show 0 < p.elements.length
      simp [Path.elements, hdot]
    · rw [isAbsolute_eq_anchor p, hdot]
      rfl

theorem Below.trans (h : Below p p') (h' : Below p' q) : Below p q where
  start := h'.start.trans h.start
  elements := h'.elements.trans h.elements
  fewer := Nat.lt_trans h'.fewer h.fewer
  isAbsolute := h'.isAbsolute.trans h.isAbsolute
  ends := h'.ends

theorem Below.length_lt (h : Below p q) : q.bytes.length < p.bytes.length := by
  refine Nat.lt_of_le_of_ne h.start.length_le fun hlen => ?_
  have heq : q = p := congrArg Path.mk (h.start.eq_of_length hlen)
  exact absurd h.fewer (heq ▸ Nat.lt_irrefl _)

theorem Below.anchor_eq (h : Below p q) (hne : q.bytes ≠ []) : q.anchor = p.anchor := by
  refine anchor_eq_of_start h.start hne fun hdot hp => ?_
  obtain rfl : q = ⟨[dot]⟩ := congrArg Path.mk hdot
  have hmem : [dot] ∈ p.elements := h.elements.subset List.mem_cons_self
  rw [Path.elements, hp] at hmem
  cases (List.mem_filter.mp hmem).2

/-- What a path is below is one of its cuts. -/
theorem Below.cut (h : Below p q) : Cut p q := by
  by_cases hne : q.bytes = []
  · obtain rfl : q = ⟨[]⟩ := congrArg Path.mk hne
    rcases p.anchor_cases with ⟨-, -, -, habs⟩ | ⟨-, hdot, -⟩ | ⟨-, hnone⟩
    · cases h.isAbsolute.trans habs
    · exact .dot hdot
    · have hcut : Cut p ⟨p.anchor ++ joinSlash []⟩ := .behind rfl nofun fun hnil => by
        have hp : p.elements = [] := by
          rw [Path.elements, hnone, hnil]
          rfl
        exact absurd h.fewer (by simp [hp])
      rwa [hnone] at hcut
  · have hanchor := h.anchor_eq hne
    have hq : q = ⟨p.anchor ++ joinSlash (splitSlash q.body)⟩ :=
      congrArg Path.mk (by rw [joinSlash_splitSlash, ← hanchor, anchor_append_body])
    obtain ⟨t, ht⟩ : ∃ t, q.body ++ t = p.body := by
      obtain ⟨t, ht⟩ := h.start
      rw [← q.anchor_append_body, ← p.anchor_append_body, hanchor, List.append_assoc] at ht
      exact ⟨t, List.append_cancel_left ht⟩
    have hstart := h.elements
    have hfewer := h.fewer
    rw [Path.elements, Path.elements, hanchor] at hstart hfewer
    rw [List.prefix_append_right_inj] at hstart
    rw [List.length_append, List.length_append, Nat.add_lt_add_iff_left] at hfewer
    rcases h.ends with hbody | ⟨last, hlast, hmeant⟩
    · have hcut : Cut p ⟨p.anchor ++ joinSlash []⟩ := .behind rfl nofun fun hnil => by
        simp [hnil] at hfewer
      rw [hbody] at hq
      exact hq ▸ hcut
    · obtain ⟨front, hfront⟩ := List.getLast?_eq_some_iff.mp hlast
      obtain ⟨first, rest, hrest⟩ := List.exists_cons_of_ne_nil (splitSlash_ne_nil t)
      have hsplit := splitSlash_append_of_parts hrest hfront
      rw [ht] at hsplit
      rw [hfront, hsplit, List.filter_append, List.filter_append,
        List.filter_cons_of_pos (isMeant_append hmeant first), List.filter_cons_of_pos hmeant]
        at hstart hfewer
      -- the last component of the one is the component of the other at that place
      have hnil : first = [] := by
        obtain ⟨more, hmore⟩ := (List.prefix_append_right_inj _).mp hstart
        simpa using (List.cons.inj hmore).1
      rw [hnil, List.append_nil, ← List.singleton_append, ← List.append_assoc] at hsplit
      rw [hq, hfront]
      refine .behind hsplit (fun part hpart => ?_) fun hnil => ?_
      · rw [List.getLast?_concat] at hpart
        exact Option.some.inj hpart ▸ hmeant
      · simp [hnil] at hfewer

theorem below_iff_of_parent? (h : p.parent? = some p') : Below p q ↔ q = p' ∨ Below p' q := by
  constructor
  · intro hq
    obtain ⟨p'', hp, hcases⟩ := exists_parent? hq.cut
    cases h.symm.trans hp
    exact hcases.imp_right Cut.below
  · have hp := (cut_of_parent? h).below
    rintro (rfl | hq)
    · exact hp
    · exact hp.trans hq

theorem not_below_of_parent? (h : p.parent? = none) : ¬Below p q := fun hq => by
  obtain ⟨p', hp, -⟩ := exists_parent? hq.cut
  cases h.symm.trans hp

/-! ## 4. The ancestors -/

theorem mem_ancestorsUpTo_iff : ∀ {n : Nat} {p : Path}, p.elements.length ≤ n →
    (q ∈ p.ancestorsUpTo n ↔ HasAncestor p q)
  | 0, p, hn => by
    have hnone : ¬Below p q := fun h => Nat.not_lt_zero _ (Nat.lt_of_lt_of_le h.fewer hn)
    simp [ancestorsUpTo, HasAncestor, hnone]
  | n + 1, p, hn => by
    unfold HasAncestor
    cases hp : p.parent? with
    | none => simp [ancestorsUpTo, hp, not_below_of_parent? hp]
    | some p' =>
      have hfewer := (cut_of_parent? hp).below.fewer
      have ih : q ∈ p'.ancestorsUpTo n ↔ HasAncestor p' q := mem_ancestorsUpTo_iff (by omega)
      rw [ancestorsUpTo, hp, List.mem_cons, ih, below_iff_of_parent? hp, HasAncestor]

theorem cons_joinSlash : ∀ {parts : List Bytes}, parts ≠ [] →
    slash :: joinSlash parts = parts.flatMap (slash :: ·)
  | [part], _ => by simp [joinSlash]
  | part :: part' :: parts, _ => by
    have ih := cons_joinSlash (List.cons_ne_nil part' parts)
    rw [List.flatMap_cons, ← ih]
    rfl

theorem length_le_length_joinSlash : ∀ parts : List Bytes,
    parts.length ≤ (joinSlash parts).length + 1
  | [] => by simp
  | [part] => by simp
  | part :: part' :: parts => by
    have ih := length_le_length_joinSlash (part' :: parts)
    simp only [joinSlash, List.length_cons, List.length_append] at ih ⊢
    omega

theorem length_elements_le (p : Path) : p.elements.length ≤ p.bytes.length + 1 := by
  have hparts := length_le_length_joinSlash (splitSlash p.body)
  have hfilter := List.length_filter_le isMeant (splitSlash p.body)
  have hanchor : (if p.anchor = [] then [] else [p.anchor]).length ≤ p.anchor.length := by
    split
    · exact Nat.zero_le _
    · exact List.length_pos_iff.mpr ‹_›
  rw [joinSlash_splitSlash] at hparts
  rw [elements, ← p.anchor_append_body, List.length_append, List.length_append]
  omega

/-- **The ancestors of a path** are itself and those it is below. -/
theorem mem_ancestors_iff : q ∈ p.ancestors ↔ HasAncestor p q :=
  mem_ancestorsUpTo_iff p.length_elements_le

theorem pairwise_ancestorsUpTo : ∀ (n : Nat) (p : Path), p.elements.length ≤ n →
    (p.ancestorsUpTo n).Pairwise fun a b => b.bytes.length < a.bytes.length
  | 0, p, _ => List.pairwise_singleton _ _
  | n + 1, p, hn => by
    unfold ancestorsUpTo
    cases hp : p.parent? with
    | none => exact List.pairwise_singleton _ _
    | some p' =>
      have hbelow := (cut_of_parent? hp).below
      have hlen : p'.elements.length ≤ n := by
        have hfewer := hbelow.fewer
        omega
      refine List.Pairwise.cons (fun q hq => ?_) (pairwise_ancestorsUpTo n p' hlen)
      rcases (mem_ancestorsUpTo_iff hlen).mp hq with rfl | hq
      · exact hbelow.length_lt
      · exact (hbelow.trans hq).length_lt

/-- Each ancestor is longer than those that follow. -/
theorem pairwise_ancestors (p : Path) :
    p.ancestors.Pairwise fun a b => b.bytes.length < a.bytes.length :=
  pairwise_ancestorsUpTo _ p p.length_elements_le

end DeviceKeys.Path
