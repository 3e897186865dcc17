import DeviceKeys.Path

/-! # The components of paths

* The names that a path spells can name entries (`isName_of_mem_components`).
* The path of a list of names has just those names as components (`components_ofNames`).
* A path that does not end in a slash has no steps but its components (`steps_of_not_endsInSlash`).
* What the anchor of a path and some of the parts behind it spell has that anchor and just those
  parts (`anchor_anchored`, `body_anchored`). The parent is such a path (`parent?_cases`), so its
  components are among those in front of the last one (`components_parent`), although `parent?`
  looks at bytes alone.
* A path with a name joined to it has its own components and the name (`components_join`).
-/

namespace DeviceKeys.Path

/-! ## 1. Names and parts -/

theorem splitSlash_ne_nil : ∀ s : Bytes, splitSlash s ≠ []
  | [] => by simp [splitSlash]
  | b :: r => by
    unfold splitSlash
    split
    · simp
    · split <;> simp

/-- A part between slashes holds no slash. -/
theorem slash_notMem_of_mem_splitSlash : ∀ {s part : Bytes}, part ∈ splitSlash s → slash ∉ part
  | [], part, h => by
    have : part = [] := by simpa [splitSlash] using h
    simp [this]
  | b :: r, part, h => by
    have ih {q : Bytes} (hq : q ∈ splitSlash r) : slash ∉ q := slash_notMem_of_mem_splitSlash hq
    unfold splitSlash at h
    split at h
    · rcases List.mem_cons.mp h with rfl | h
      · simp
      · exact ih h
    · rename_i hb
      cases hs : splitSlash r with
      | nil => exact absurd hs (splitSlash_ne_nil r)
      | cons p ps =>
        rw [hs] at h
        rcases List.mem_cons.mp h with rfl | h
        · have hp : slash ∉ p := ih (hs ▸ List.mem_cons_self)
          simp [hp, Ne.symm hb]
        · exact ih (hs ▸ List.mem_cons_of_mem p h)

/-- Each byte of a part is one of the whole. -/
theorem mem_of_mem_splitSlash {b : UInt8} : ∀ {s part : Bytes}, part ∈ splitSlash s → b ∈ part →
    b ∈ s
  | [], part, h, hb => by
    have : part = [] := by simpa [splitSlash] using h
    simp [this] at hb
  | c :: r, part, h, hb => by
    have ih {q : Bytes} (hq : q ∈ splitSlash r) (hbq : b ∈ q) : b ∈ r :=
      mem_of_mem_splitSlash hq hbq
    unfold splitSlash at h
    split at h
    · rcases List.mem_cons.mp h with rfl | h
      · cases hb
      · exact List.mem_cons_of_mem c (ih h hb)
    · cases hs : splitSlash r with
      | nil => exact absurd hs (splitSlash_ne_nil r)
      | cons p ps =>
        rw [hs] at h
        rcases List.mem_cons.mp h with rfl | h
        · rcases List.mem_cons.mp hb with rfl | hb
          · exact List.mem_cons_self
          · exact List.mem_cons_of_mem c (ih (hs ▸ List.mem_cons_self) hb)
        · exact List.mem_cons_of_mem c (ih (hs ▸ List.mem_cons_of_mem p h) hb)

theorem eq_of_stepOf {part name : Bytes} (h : stepOf part = some (.down name)) :
    part = name ∧ name ≠ [] ∧ name ≠ [dot] ∧ name ≠ [dot, dot] := by
  unfold stepOf at h
  split at h
  · cases h
  split at h
  · cases h
  split at h
  · cases h
  · rename_i hnil hdot hdots
    cases h
    exact ⟨rfl, hnil, hdot, hdots⟩

/-- **The names that a path spells can name entries.** -/
theorem isName_of_mem_components {p : Path} {name : Name} (h : .down name ∈ p.components) :
    IsName name := by
  obtain ⟨part, hpart, hstep⟩ := List.mem_filterMap.mp h
  obtain ⟨rfl, hnil, hdot, hdots⟩ := eq_of_stepOf hstep
  exact ⟨hnil, hdot, hdots, slash_notMem_of_mem_splitSlash hpart⟩

/-- Each byte of a name that a path spells is one of the path. -/
theorem mem_of_mem_components {p : Path} {name : Name} (h : .down name ∈ p.components) {b : UInt8}
    (hb : b ∈ name) : b ∈ p.bytes := by
  obtain ⟨part, hpart, hstep⟩ := List.mem_filterMap.mp h
  obtain ⟨rfl, -⟩ := eq_of_stepOf hstep
  exact mem_of_mem_splitSlash hpart hb

theorem stepOf_name {name : Name} (h : IsName name) : stepOf name = some (.down name) := by
  unfold stepOf
  rw [if_neg h.1, if_neg h.2.1, if_neg h.2.2.1]

theorem splitSlash_append_slash : ∀ {p : Bytes}, slash ∉ p → ∀ r : Bytes,
    splitSlash (p ++ slash :: r) = p :: splitSlash r
  | [], _, r => by rw [List.nil_append, splitSlash, if_pos rfl]
  | b :: p, h, r => by
    have hb : b ≠ slash := fun hb => h (hb ▸ List.mem_cons_self)
    have hp : slash ∉ p := fun hp => h (List.mem_cons_of_mem b hp)
    rw [List.cons_append, splitSlash, if_neg hb, splitSlash_append_slash hp r]

theorem splitSlash_of_notMem : ∀ {p : Bytes}, slash ∉ p → splitSlash p = [p]
  | [], _ => rfl
  | b :: p, h => by
    have hb : b ≠ slash := fun hb => h (hb ▸ List.mem_cons_self)
    have hp : slash ∉ p := fun hp => h (List.mem_cons_of_mem b hp)
    rw [splitSlash, if_neg hb, splitSlash_of_notMem hp]

theorem splitSlash_joinSlash : ∀ {parts : List Bytes}, parts ≠ [] →
    (∀ part ∈ parts, slash ∉ part) → splitSlash (joinSlash parts) = parts
  | [part], _, h => splitSlash_of_notMem (h part List.mem_cons_self)
  | part :: part' :: parts, _, h => by
    have ih : splitSlash (joinSlash (part' :: parts)) = part' :: parts :=
      splitSlash_joinSlash (by simp) fun q hq => h q (List.mem_cons_of_mem part hq)
    rw [joinSlash, splitSlash_append_slash (h part List.mem_cons_self), ih]

theorem joinSlash_splitSlash : ∀ s : Bytes, joinSlash (splitSlash s) = s
  | [] => rfl
  | b :: s => by
    have ih := joinSlash_splitSlash s
    unfold splitSlash
    cases hs : splitSlash s with
    | nil => exact absurd hs (splitSlash_ne_nil s)
    | cons part parts =>
      rw [hs] at ih
      split
      · rename_i hb
        rw [joinSlash, ih, hb, List.nil_append]
      · cases parts <;> exact congrArg (b :: ·) ih

theorem joinSlash_append : ∀ {parts rest : List Bytes}, parts ≠ [] → rest ≠ [] →
    joinSlash (parts ++ rest) = joinSlash parts ++ slash :: joinSlash rest
  | [part], first :: rest, _, _ => rfl
  | part :: part' :: parts, rest, _, hrest => by
    have ih : joinSlash (part' :: parts ++ rest) =
        joinSlash (part' :: parts) ++ slash :: joinSlash rest := joinSlash_append (by simp) hrest
    rw [List.cons_append, List.cons_append, joinSlash, ← List.cons_append, ih, joinSlash,
      List.append_assoc]
    rfl

theorem prefix_joinSlash_append (parts rest : List Bytes) :
    joinSlash parts <+: joinSlash (parts ++ rest) := by
  by_cases hparts : parts = []
  · rw [hparts]
    exact List.nil_prefix
  by_cases hrest : rest = []
  · simp [hrest]
  · rw [joinSlash_append hparts hrest]
    exact List.prefix_append _ _

theorem filterMap_joinSlash {parts : List Bytes} (h : ∀ part ∈ parts, slash ∉ part) :
    (splitSlash (joinSlash parts)).filterMap stepOf = parts.filterMap stepOf := by
  by_cases hparts : parts = []
  · rw [hparts]
    rfl
  · rw [splitSlash_joinSlash hparts h]

theorem filterMap_stepOf_names : ∀ {names : List Name}, (∀ n ∈ names, IsName n) →
    names.filterMap stepOf = names.map .down
  | [], _ => rfl
  | n :: names, h => by
    rw [List.filterMap_cons_some (stepOf_name (h n List.mem_cons_self)),
      filterMap_stepOf_names fun k hk => h k (List.mem_cons_of_mem n hk)]
    rfl

/-- **The path of a list of names has just those names as components.** -/
theorem components_ofNames {names : List Name} (h : ∀ n ∈ names, IsName n) :
    (ofNames names).components = names.map .down := by
  unfold components ofNames
  show (splitSlash (slash :: joinSlash names)).filterMap stepOf = _
  rw [splitSlash, if_pos rfl, ← filterMap_stepOf_names h]
  exact filterMap_joinSlash fun n hn => (h n hn).2.2.2

theorem steps_of_not_endsInSlash {p : Path} (h : p.endsInSlash = false) :
    p.steps = p.components := by
  unfold steps
  rw [h]
  exact List.append_nil _

theorem steps_of_getLast? {p : Path} {step : Step} (h : p.components.getLast? = some step) :
    p.steps = p.components.dropLast ++ (step :: if p.endsInSlash then [.here] else []) := by
  obtain ⟨front, hfront⟩ := List.getLast?_eq_some_iff.mp h
  unfold steps
  rw [hfront, List.dropLast_concat, List.append_assoc]
  rfl

theorem eq_slash_of_mem : ∀ {s : Bytes}, (∀ part ∈ splitSlash s, part = []) →
    ∀ b ∈ s, b = slash
  | [], _, _, hb => by cases hb
  | c :: r, h, b, hb => by
    unfold splitSlash at h
    split at h
    · rename_i hc
      rcases List.mem_cons.mp hb with rfl | hb
      · exact hc
      · exact eq_slash_of_mem (fun part hp => h part (List.mem_cons_of_mem [] hp)) b hb
    · cases hs : splitSlash r with
      | nil => exact absurd hs (splitSlash_ne_nil r)
      | cons p ps =>
        rw [hs] at h
        cases h _ List.mem_cons_self

/-- Every path but the one without bytes has a step. -/
theorem steps_ne_nil {p : Path} (h : p.bytes ≠ []) : p.steps ≠ [] := by
  intro hs
  obtain ⟨hc, hslash⟩ := List.append_eq_nil_iff.mp hs
  have hparts : ∀ part ∈ splitSlash p.bytes, part = [] := by
    intro part hp
    have hnone : stepOf part = none := by
      cases he : stepOf part with
      | none => rfl
      | some step =>
        have hm : step ∈ p.components := List.mem_filterMap.mpr ⟨part, hp, he⟩
        rw [hc] at hm
        cases hm
    by_cases hnil : part = []
    · exact hnil
    · unfold stepOf at hnone
      rw [if_neg hnil] at hnone
      split at hnone
      · cases hnone
      split at hnone <;> cases hnone
  have hlast : p.bytes.getLast h = slash := eq_slash_of_mem hparts _ (List.getLast_mem h)
  have hends : p.endsInSlash = true := by
    unfold endsInSlash
    rw [List.getLast?_eq_some_getLast h, hlast]
    rfl
  rw [hends] at hslash
  cases hslash

/-! ## 2. The anchor, and the parts behind it -/

variable {p q : Path} {parts rest : List Bytes}

/-- The three kinds of anchor, with the bytes behind it. -/
theorem anchor_cases (p : Path) :
    (∃ r, p.bytes = slash :: r ∧ p.anchor = [slash] ∧ p.isAbsolute = true) ∨
      (p.isAbsolute = false ∧ p.anchor = [dot] ∧
        (p.bytes = [dot] ∨ ∃ r, p.bytes = dot :: slash :: r)) ∨
      (p.isAbsolute = false ∧ p.anchor = []) := by
  obtain ⟨s⟩ := p
  cases ha : isAbsolute ⟨s⟩ with
  | true =>
    have hs : s.head? = some slash := of_decide_eq_true ha
    obtain ⟨r, rfl⟩ : ∃ r, s = slash :: r := by
      cases s with
      | nil => cases hs
      | cons b r => exact ⟨r, congrArg (· :: r) (Option.some.inj hs)⟩
    exact .inl ⟨r, rfl, by unfold anchor; rw [if_pos ha], rfl⟩
  | false =>
    have hanchor : anchor ⟨s⟩ = if s = [dot] ∨ s.take 2 = [dot, slash] then [dot] else [] := by
      unfold anchor
      rw [if_neg (by simp [ha])]
    by_cases hdot : s = [dot] ∨ s.take 2 = [dot, slash]
    · refine .inr (.inl ⟨rfl, by rw [hanchor, if_pos hdot], hdot.imp_right fun h => ?_⟩)
      match s, h with
      | b :: c :: r, h =>
        cases h
        exact ⟨r, rfl⟩
    · exact .inr (.inr ⟨rfl, by rw [hanchor, if_neg hdot]⟩)

/-- The bytes behind the anchor. -/
def body (p : Path) : Bytes := p.bytes.drop p.anchor.length

theorem anchor_append_body (p : Path) : p.anchor ++ p.body = p.bytes := by
  unfold body
  rcases p.anchor_cases with ⟨r, hs, ha, -⟩ | ⟨-, ha, hs | ⟨r, hs⟩⟩ | ⟨-, ha⟩
  · rw [hs, ha]
    rfl
  · rw [hs, ha]
    rfl
  · rw [hs, ha]
    rfl
  · rw [ha]
    rfl

theorem isAbsolute_eq_anchor (p : Path) : p.isAbsolute = decide (p.anchor = [slash]) := by
  rcases p.anchor_cases with ⟨r, -, ha, habs⟩ | ⟨habs, ha, -⟩ | ⟨habs, ha⟩ <;> rw [habs, ha] <;> rfl

/-- The steps of an anchor: only a dot in front is a step. -/
def anchorSteps (p : Path) : List Step := if p.anchor = [dot] then [.here] else []

theorem components_eq (p : Path) : p.components =
    p.anchorSteps ++ (splitSlash p.body).filterMap stepOf := by
  unfold components anchorSteps body
  rcases p.anchor_cases with ⟨r, hs, ha, -⟩ | ⟨-, ha, hs | ⟨r, hs⟩⟩ | ⟨-, ha⟩
  · rw [hs, ha, if_neg (by decide), splitSlash, if_pos rfl]
    rfl
  · rw [hs, ha, if_pos rfl]
    rfl
  · have hd : splitSlash (dot :: slash :: r) = [dot] :: splitSlash r :=
      splitSlash_append_slash (p := [dot]) (by decide) r
    rw [hs, ha, if_pos rfl, hd]
    show _ = _ ++ (splitSlash (slash :: r)).filterMap stepOf
    rw [splitSlash, if_pos rfl]
    rfl
  · rw [ha, if_neg (by decide)]
    rfl

/-- The part means something to the lexical reading. -/
def isMeant (part : Bytes) : Bool := !isIdle part

/-- The last of the parts, if there is one, means something. -/
def Trimmed (parts : List Bytes) : Prop := ∀ part ∈ parts.getLast?, isMeant part = true

theorem slash_notMem_of_split {s : Bytes} (hsplit : splitSlash s = parts ++ rest) :
    ∀ part ∈ parts, slash ∉ part := fun _ hpart =>
  slash_notMem_of_mem_splitSlash (hsplit ▸ List.mem_append_left rest hpart)

/-- The first bytes of a path have its anchor, unless they are a dot in front of more. -/
theorem anchor_eq_of_start (h : q.bytes <+: p.bytes) (hne : q.bytes ≠ [])
    (hdot : q.bytes = [dot] → p.anchor ≠ []) : q.anchor = p.anchor := by
  obtain ⟨t, ht⟩ := h
  rcases p.anchor_cases with ⟨r, hp, ha, -⟩ | ⟨-, ha, hp⟩ | ⟨habs, ha⟩
  · have hq : q.isAbsolute = true := by
      cases hb : q.bytes with
      | nil => exact absurd hb hne
      | cons b s =>
        rw [hb, hp] at ht
        have hslash : b = slash := (List.cons.inj ht).1
        simp [isAbsolute, hb, hslash]
    rw [ha, anchor, if_pos hq]
  · have hq : q.bytes = [dot] ∨ ∃ r, q.bytes = dot :: slash :: r := by
      rcases hb : q.bytes with _ | ⟨b, _ | ⟨c, s⟩⟩
      · exact absurd hb hne
      · rw [hb] at ht
        rcases hp with hp | ⟨r, hp⟩ <;> rw [hp] at ht <;> simp_all
      · rw [hb] at ht
        rcases hp with hp | ⟨r, hp⟩ <;> rw [hp] at ht <;> simp_all
    rcases hq with hq | ⟨r, hq⟩ <;> rw [ha, anchor, isAbsolute, hq] <;> simp [slash, dot]
  · rcases q.anchor_cases with ⟨r, hq, -⟩ | ⟨-, -, hq | ⟨r, hq⟩⟩ | ⟨-, hq⟩
    · rw [isAbsolute, ← ht, hq] at habs
      simp at habs
    · exact absurd ha (hdot hq)
    · rw [anchor, if_neg (by simp [habs]), ← ht, hq] at ha
      simp at ha
    · rw [hq, ha]

/-- What the parts behind no anchor spell is no dot, which would be one. -/
theorem anchored_ne_dot (hsplit : splitSlash p.body = parts ++ rest) (htrim : Trimmed parts)
    (h : p.anchor = []) : p.anchor ++ joinSlash parts ≠ [dot] := by
  intro hdot
  rw [h, List.nil_append] at hdot
  have hparts : parts ≠ [] := by
    rintro rfl
    cases hdot
  have hone : parts = [[dot]] := by
    rw [← splitSlash_joinSlash hparts (slash_notMem_of_split hsplit), hdot]
    rfl
  rw [hone] at htrim
  cases htrim [dot] rfl

theorem anchored_start (hsplit : splitSlash p.body = parts ++ rest) :
    p.anchor ++ joinSlash parts <+: p.bytes := by
  rw [← p.anchor_append_body, ← joinSlash_splitSlash p.body, hsplit]
  exact (List.prefix_append_right_inj _).mpr (prefix_joinSlash_append parts rest)

/-- What an anchor and some of the parts behind it spell has that anchor. -/
theorem anchor_anchored (hsplit : splitSlash p.body = parts ++ rest) (htrim : Trimmed parts) :
    anchor ⟨p.anchor ++ joinSlash parts⟩ = p.anchor := by
  by_cases hnil : p.anchor ++ joinSlash parts = []
  · rw [hnil, (List.append_eq_nil_iff.mp hnil).1]
    rfl
  · exact anchor_eq_of_start (q := ⟨_⟩) (anchored_start hsplit) hnil
      fun hdot h => anchored_ne_dot hsplit htrim h hdot

theorem body_anchored (hsplit : splitSlash p.body = parts ++ rest) (htrim : Trimmed parts) :
    body ⟨p.anchor ++ joinSlash parts⟩ = joinSlash parts := by
  rw [body, anchor_anchored hsplit htrim, List.drop_left]

/-- What an anchor and some of the parts behind it spell. -/
theorem components_anchored (hsplit : splitSlash p.body = parts ++ rest)
    (htrim : Trimmed parts) :
    components ⟨p.anchor ++ joinSlash parts⟩ = p.anchorSteps ++ parts.filterMap stepOf ∧
      isAbsolute ⟨p.anchor ++ joinSlash parts⟩ = p.isAbsolute := by
  have hanchor := anchor_anchored hsplit htrim
  refine ⟨?_, ?_⟩
  · rw [components_eq, anchorSteps, hanchor, body_anchored hsplit htrim,
      filterMap_joinSlash (slash_notMem_of_split hsplit)]
    rfl
  · rw [isAbsolute_eq_anchor, hanchor, isAbsolute_eq_anchor]

/-! ## 3. The parent of a path -/

theorem stepOf_ne_none {part : Bytes} (h : part ≠ []) : stepOf part ≠ none := by
  unfold stepOf
  rw [if_neg h]
  split
  · simp
  split <;> simp

/-- What taking away the last part that means something, and the idle ones around it, leaves. -/
theorem exists_parts {parts before : List Bytes} {x : Bytes}
    (h : parts.reverse.dropWhile isIdle = x :: before) :
    isIdle x = false ∧ ∃ rest, parts = (before.dropWhile isIdle).reverse ++ rest := by
  obtain ⟨idle, hp⟩ : ∃ idle, idle ++ x :: before = parts.reverse :=
    ⟨_, h ▸ List.takeWhile_append_dropWhile⟩
  have hb : before.takeWhile isIdle ++ before.dropWhile isIdle = before :=
    List.takeWhile_append_dropWhile
  refine ⟨?_, (before.takeWhile isIdle).reverse ++ x :: idle.reverse, ?_⟩
  · have := List.head?_dropWhile_not isIdle parts.reverse
    rw [h] at this
    simpa using this
  · rw [← List.append_assoc, ← List.reverse_append, hb, ← List.reverse_reverse parts, ← hp]
    simp

theorem filter_dropWhile_isIdle (l : List Bytes) :
    (l.dropWhile isIdle).filter isMeant = l.filter isMeant := by
  have hidle : (l.takeWhile isIdle).filter isMeant = [] := by
    refine List.filter_eq_nil_iff.mpr fun part hpart => ?_
    simp [isMeant, List.all_eq_true.mp List.all_takeWhile part hpart]
  have hl : (l.takeWhile isIdle ++ l.dropWhile isIdle).filter isMeant = l.filter isMeant := by
    rw [List.takeWhile_append_dropWhile]
  rwa [List.filter_append, hidle, List.nil_append] at hl

/-- The parent is cut at the last part that means something. -/
theorem parent?_cases (p : Path) :
    (∃ parts rest last, splitSlash p.body = parts ++ rest ∧ Trimmed parts ∧
      rest.filter isMeant = [last] ∧ p.parent? = some ⟨p.anchor ++ joinSlash parts⟩) ∨
    ((splitSlash p.body).filter isMeant = [] ∧
      p.parent? = if p.anchor = [dot] then some ⟨[]⟩ else none) := by
  have hfilter := filter_dropWhile_isIdle (splitSlash p.body).reverse
  rw [List.filter_reverse] at hfilter
  cases hparts : (splitSlash p.body).reverse.dropWhile isIdle with
  | nil =>
    refine .inr ⟨?_, ?_⟩
    · rw [hparts] at hfilter
      exact List.reverse_eq_nil_iff.mp hfilter.symm
    · unfold parent?
      rw [body] at hparts
      rw [hparts]
  | cons last before =>
    obtain ⟨hlast, rest, hsplit⟩ := exists_parts hparts
    refine .inl ⟨_, rest, last, hsplit, fun part hpart => ?_, ?_, ?_⟩
    · have hhead := List.head?_dropWhile_not isIdle before
      rw [List.getLast?_reverse] at hpart
      rw [hpart] at hhead
      simpa [isMeant] using hhead
    · -- the parts that mean something are those of the front and the last one
      rw [hparts, List.filter_cons_of_pos (by simp [isMeant, hlast])] at hfilter
      have hback := congrArg List.reverse hfilter
      rw [List.reverse_reverse, hsplit, List.reverse_cons, List.filter_append, List.filter_reverse,
        filter_dropWhile_isIdle] at hback
      exact (List.append_cancel_left hback).symm
    · unfold parent?
      rw [body] at hparts
      rw [hparts]

/-- **The components of the parent of a path are among those in front of its last one.** -/
theorem components_parent {p q : Path} (h : p.parent? = some q) :
    q.components <+: p.components.dropLast ∧ q.isAbsolute = p.isAbsolute := by
  rcases p.parent?_cases with ⟨parts, rest, last, hsplit, htrim, hlast, hp⟩ | ⟨-, hp⟩
  · cases h.symm.trans hp
    obtain ⟨hq, habs⟩ := components_anchored hsplit htrim
    refine ⟨?_, habs⟩
    obtain ⟨hmem, hmeant⟩ := List.mem_filter.mp (hlast ▸ List.mem_singleton_self last)
    have hne : last ≠ [] := by
      rintro rfl
      cases hmeant
    have hrest : rest.filterMap stepOf ≠ [] := fun hnil =>
      stepOf_ne_none hne (List.filterMap_eq_nil_iff.mp hnil last hmem)
    rw [hq, p.components_eq, hsplit, List.filterMap_append, ← List.append_assoc,
      List.dropLast_append_of_ne_nil hrest]
    exact List.prefix_append _ _
  · rw [hp] at h
    split at h
    · rename_i hdot
      cases h
      refine ⟨List.nil_prefix, ?_⟩
      rw [isAbsolute_eq_anchor p, hdot]
      rfl
    · cases h

/-- So are the components of all that is in front of a path. -/
theorem components_of_mem_ancestors {p q : Path} (h : q ∈ p.ancestors) :
    q.components <+: p.components ∧ q.isAbsolute = p.isAbsolute := by
  suffices ∀ (n : Nat) (p : Path), q ∈ ancestorsUpTo n p →
      q.components <+: p.components ∧ q.isAbsolute = p.isAbsolute from this _ p h
  intro n
  induction n with
  | zero =>
    intro p h
    obtain rfl := List.mem_singleton.mp h
    exact ⟨List.prefix_rfl, rfl⟩
  | succ n ih =>
    intro p h
    unfold ancestorsUpTo at h
    split at h
    · rename_i p' hp'
      rcases List.mem_cons.mp h with rfl | h
      · exact ⟨List.prefix_rfl, rfl⟩
      · obtain ⟨hq, habs⟩ := ih p' h
        obtain ⟨hp, habs'⟩ := components_parent hp'
        exact ⟨hq.trans (hp.trans (List.dropLast_prefix _)), habs.trans habs'⟩
    · obtain rfl := List.mem_singleton.mp h
      exact ⟨List.prefix_rfl, rfl⟩

/-! ## 4. A name joined to a path -/

section Joining

variable {base : Path} {name : Name}

theorem splitSlash_append : ∀ s r : Bytes,
    splitSlash (s ++ slash :: r) = splitSlash s ++ splitSlash r
  | [], r => by
    show splitSlash (slash :: r) = [] :: splitSlash r
    rw [splitSlash, if_pos rfl]
  | b :: s, r => by
    rw [List.cons_append, splitSlash, splitSlash, splitSlash_append s r]
    split
    · rfl
    · cases hs : splitSlash s with
      | nil => exact absurd hs (splitSlash_ne_nil s)
      | cons p ps => rfl

theorem isAbsolute_of_isName (h : IsName name) : isAbsolute ⟨name⟩ = false := by
  cases name with
  | nil => rfl
  | cons b r =>
    have hb : b ≠ slash := fun hb => h.2.2.2 (hb ▸ List.mem_cons_self)
    simpa [isAbsolute] using hb

/-- The bytes of a path with a name joined to it: a slash stands between the two. -/
theorem join_name (h : IsName name) (hb : base.bytes ≠ []) :
    ∃ front, (base.join ⟨name⟩).bytes = front ++ slash :: name ∧
      (base.bytes = front ∨ base.bytes = front ++ [slash]) := by
  unfold join
  rw [if_neg (by simp [isAbsolute_of_isName h])]
  split
  · rename_i hs
    obtain ⟨front, hfront⟩ := List.getLast?_eq_some_iff.mp (of_decide_eq_true (hs.resolve_left hb))
    exact ⟨front, by simp [hfront], .inr hfront⟩
  · exact ⟨base.bytes, rfl, .inl rfl⟩

/-- What ends in a name does not end in a slash. -/
theorem endsInSlash_of_isName (h : IsName name) (front : Bytes) :
    endsInSlash ⟨front ++ slash :: name⟩ = false := by
  have hne : name.getLast h.1 ≠ slash := fun he => h.2.2.2 (he ▸ List.getLast_mem h.1)
  unfold endsInSlash
  rw [List.getLast?_append, List.getLast?_cons, List.getLast?_eq_some_getLast h.1]
  simpa using hne

theorem endsInSlash_join (h : IsName name) (hb : base.bytes ≠ []) :
    (base.join ⟨name⟩).endsInSlash = false := by
  obtain ⟨front, hjoin, -⟩ := join_name h hb
  have hends := endsInSlash_of_isName h front
  rwa [← hjoin] at hends

/-- **The components of a path with a name joined to it** are its own and the name. -/
theorem components_join (h : IsName name) (hb : base.bytes ≠ []) :
    (base.join ⟨name⟩).components = base.components ++ [.down name] := by
  obtain ⟨front, hjoin, hbase⟩ := join_name h hb
  have hfront : base.components = (splitSlash front).filterMap stepOf := by
    unfold components
    rcases hbase with hbase | hbase
    · rw [hbase]
    · rw [hbase, splitSlash_append, List.filterMap_append]
      exact List.append_nil _
  rw [hfront]
  unfold components
  rw [hjoin, splitSlash_append, List.filterMap_append, splitSlash_of_notMem h.2.2.2,
    List.filterMap_cons_some (stepOf_name h)]
  rfl

theorem steps_join (h : IsName name) (hb : base.bytes ≠ []) :
    (base.join ⟨name⟩).steps = base.components ++ [.down name] := by
  rw [steps_of_not_endsInSlash (endsInSlash_join h hb), components_join h hb]

theorem isAbsolute_join_name (h : IsName name) (hb : base.bytes ≠ []) :
    (base.join ⟨name⟩).isAbsolute = base.isAbsolute := by
  obtain ⟨front, hjoin, hbase⟩ := join_name h hb
  unfold isAbsolute
  rw [hjoin]
  cases front with
  | nil =>
    rcases hbase with hbase | hbase
    · exact absurd hbase hb
    · rw [hbase]
      rfl
  | cons b front => rcases hbase with hbase | hbase <;> rw [hbase] <;> rfl

/-- A path seen from an absolute one is absolute. -/
theorem isAbsolute_join {base : Path} (h : base.isAbsolute = true) (p : Path) :
    (base.join p).isAbsolute = true := by
  have hb : base.bytes.head? = some slash := of_decide_eq_true h
  obtain ⟨rest, hrest⟩ := List.head?_eq_some_iff.mp hb
  unfold join
  split
  · assumption
  split
  · simp [isAbsolute, hrest]
  · simp [isAbsolute, hrest]

end Joining

end DeviceKeys.Path
