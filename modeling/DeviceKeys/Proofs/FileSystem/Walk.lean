import DeviceKeys.FileSystem.Walk

/-! # Routes

`FileSystem.walk` is a program with a bound on links; a `Route` is what it finds: the steps lead
from one location to another, and the links that are followed on the way are listed.

* `walk_route`, `exists_route`: a walk that follows links comes to a location exactly along a route
  with no more links than it may follow.
* `Route.transfer`: a route stays one in any tree that keeps its directories and its links.
* `walk_severed`: where one of its links has become a file, the walk fails.
* `linksOn` computes the links of a walk (`linksOn_route`).
-/

namespace DeviceKeys.FileSystem

open DeviceKeys.Path (Step Name)

/-! ## 1. The equations of a walk -/

/-- What a walk with at most `n` links does at a link. -/
def onward (fs : FileSystem) (follow : Bool) :
    Nat → Location → Path → List Step → Except IoFault Target
  | 0, _, _, _ => .error .tooManyLinks
  | n + 1, l, target, rest => fs.walk follow n (startOf l target) (target.steps ++ rest)

theorem walk_eq (fs : FileSystem) (follow : Bool) (n : Nat) :
    fs.walk follow n = walkSteps fs (onward fs follow n) follow := by
  cases n <;> rfl

section Equations

variable {fs : FileSystem} {follow : Bool} {n : Nat} {l : Location} {name : Name}
  {rest : List Step}

theorem walk_nil : fs.walk follow n l [] = .ok (.found l) := by
  rw [walk_eq]
  rfl

theorem walk_notDirectory (hl : fs.isDirAt l = false) (step : Step) :
    fs.walk follow n l (step :: rest) = .error (fs.noDirectory l) := by
  rw [walk_eq]
  exact if_neg (by simp [hl])

/-- Where something stands that is no directory, a step is refused for that reason. -/
theorem noDirectory_of_some {e : Entry} (h : fs.get? l = some e) :
    fs.noDirectory l = .notDirectory := by
  unfold noDirectory
  rw [h]
  rfl

theorem walk_here (hl : fs.isDirAt l = true) :
    fs.walk follow n l (.here :: rest) = fs.walk follow n l rest := by
  rw [walk_eq]
  exact if_pos hl

theorem walk_up (hl : fs.isDirAt l = true) :
    fs.walk follow n l (.up :: rest) = fs.walk follow n l.tail rest := by
  rw [walk_eq]
  exact if_pos hl

theorem walk_tooLong (hl : fs.isDirAt l = true) (hn : nameLimit < name.length) :
    fs.walk follow n l (.down name :: rest) = .error .nameTooLong := by
  rw [walk_eq]
  exact (if_pos hl).trans (if_pos hn)

theorem walk_absent (hl : fs.isDirAt l = true) (hn : name.length ≤ nameLimit)
    (he : fs.get? (name :: l) = none) :
    fs.walk follow n l (.down name :: rest) =
      if rest.isEmpty then .ok (.missing l name) else .error .noEntry := by
  rw [walk_eq]
  refine (if_pos hl).trans ((if_neg (Nat.not_lt.mpr hn)).trans ?_)
  rw [he]

theorem walk_entry {e : Entry} (hl : fs.isDirAt l = true) (hn : name.length ≤ nameLimit)
    (he : fs.get? (name :: l) = some e) (hlink : ∀ t, e ≠ .link t) :
    fs.walk follow n l (.down name :: rest) = fs.walk follow n (name :: l) rest := by
  rw [walk_eq]
  refine (if_pos hl).trans ((if_neg (Nat.not_lt.mpr hn)).trans ?_)
  rw [he]
  cases e with
  | link t => exact absurd rfl (hlink t)
  | _ => rfl

theorem walk_link {target : Path} (hl : fs.isDirAt l = true) (hn : name.length ≤ nameLimit)
    (he : fs.get? (name :: l) = some (.link target)) :
    fs.walk true n l (.down name :: rest) = onward fs true n l target rest := by
  rw [walk_eq]
  refine (if_pos hl).trans ((if_neg (Nat.not_lt.mpr hn)).trans ?_)
  rw [he]
  simp

theorem isDirAt_congr {fs' : FileSystem} (h : fs'.get? l = fs.get? l) :
    fs'.isDirAt l = fs.isDirAt l := by
  unfold isDirAt
  rw [h]

theorem noDirectory_congr {fs' : FileSystem} (h : fs'.get? l = fs.get? l) :
    fs'.noDirectory l = fs.noDirectory l := by
  unfold noDirectory
  rw [h]

end Equations

/-- **Induction along a walk that follows links.** It ends with its steps, or in front of one that
    cannot be taken; at a link it goes on with one link less, if it may. -/
@[elab_as_elim]
theorem walk_induction (fs : FileSystem) {motive : Nat → Location → List Step → Prop}
    (nil : ∀ n l, motive n l [])
    (notDirectory : ∀ {n l step rest}, fs.isDirAt l = false → motive n l (step :: rest))
    (here : ∀ {n l rest}, fs.isDirAt l = true → motive n l rest → motive n l (.here :: rest))
    (up : ∀ {n l rest}, fs.isDirAt l = true → motive n l.tail rest → motive n l (.up :: rest))
    (tooLong : ∀ {n l name rest}, fs.isDirAt l = true → nameLimit < name.length →
      motive n l (.down name :: rest))
    (absent : ∀ {n l name rest}, fs.isDirAt l = true → name.length ≤ nameLimit →
      fs.get? (name :: l) = none → motive n l (.down name :: rest))
    (entry : ∀ {n l name rest e}, fs.isDirAt l = true → name.length ≤ nameLimit →
      fs.get? (name :: l) = some e → (∀ t, e ≠ .link t) → motive n (name :: l) rest →
      motive n l (.down name :: rest))
    (lastLink : ∀ {l name rest target}, fs.isDirAt l = true → name.length ≤ nameLimit →
      fs.get? (name :: l) = some (.link target) → motive 0 l (.down name :: rest))
    (link : ∀ {n l name rest target}, fs.isDirAt l = true → name.length ≤ nameLimit →
      fs.get? (name :: l) = some (.link target) →
      motive n (startOf l target) (target.steps ++ rest) →
      motive (n + 1) l (.down name :: rest))
    (n : Nat) (l : Location) (steps : List Step) : motive n l steps := by
  -- on the links first, since the target of one can have more steps than are left
  have walk (n : Nat) (followed : ∀ {l name rest target}, fs.isDirAt l = true →
      name.length ≤ nameLimit → fs.get? (name :: l) = some (.link target) →
      motive n l (.down name :: rest)) (steps : List Step) : ∀ l, motive n l steps := by
    induction steps with
    | nil => exact nil n
    | cons step rest ih =>
      intro l
      by_cases hl : fs.isDirAt l = true
      · cases step with
        | here => exact here hl (ih l)
        | up => exact up hl (ih l.tail)
        | down name =>
          by_cases hn : name.length ≤ nameLimit
          · cases he : fs.get? (name :: l) with
            | none => exact absent hl hn he
            | some e =>
              cases e with
              | link target => exact followed hl hn he
              | _ => exact entry hl hn he (by simp) (ih (name :: l))
          · exact tooLong hl (Nat.not_le.mp hn)
      · exact notDirectory (by simpa using hl)
  induction n generalizing l steps with
  | zero => exact walk 0 lastLink steps l
  | succ n ih => exact walk (n + 1) (fun hl hn he => link hl hn he (ih _ _)) steps l

/-! ## 2. Routes -/

/-- The steps lead from a location to another, links followed; the list holds the locations of the
    links on the way, in their order. -/
inductive Route (fs : FileSystem) : Location → List Step → List Location → Location → Prop
  | done (l : Location) : Route fs l [] [] l
  | here {l m : Location} {rest : List Step} {ks : List Location} (hl : fs.isDirAt l = true)
      (hr : Route fs l rest ks m) : Route fs l (.here :: rest) ks m
  | up {l m : Location} {rest : List Step} {ks : List Location} (hl : fs.isDirAt l = true)
      (hr : Route fs l.tail rest ks m) : Route fs l (.up :: rest) ks m
  | entry {l m : Location} {name : Name} {rest : List Step} {ks : List Location} {e : Entry}
      (hl : fs.isDirAt l = true) (hn : name.length ≤ nameLimit)
      (he : fs.get? (name :: l) = some e) (hlink : ∀ t, e ≠ .link t)
      (hr : Route fs (name :: l) rest ks m) : Route fs l (.down name :: rest) ks m
  | link {l m : Location} {name : Name} {rest : List Step} {ks : List Location} {target : Path}
      (hl : fs.isDirAt l = true) (hn : name.length ≤ nameLimit)
      (he : fs.get? (name :: l) = some (.link target))
      (hr : Route fs (startOf l target) (target.steps ++ rest) ks m) :
      Route fs l (.down name :: rest) ((name :: l) :: ks) m

variable {fs fs' : FileSystem} {l m : Location} {steps : List Step} {ks : List Location}

/-- **A walk takes a route to its end**, if it may follow the links of it, and goes on from there
    with the links that it may still follow. -/
theorem walk_route (h : Route fs l steps ks m) : ∀ {n : Nat}, ks.length ≤ n →
    ∀ rest : List Step, fs.walk true n l (steps ++ rest) = fs.walk true (n - ks.length) m rest := by
  induction h with
  | done l => intro n _ rest; rfl
  | here hl _ ih =>
    intro n hk rest
    rw [List.cons_append, walk_here hl, ih hk]
  | up hl _ ih =>
    intro n hk rest
    rw [List.cons_append, walk_up hl, ih hk]
  | entry hl hn he hlink _ ih =>
    intro n hk rest
    rw [List.cons_append, walk_entry hl hn he hlink, ih hk]
  | @link l m name rest' ks target hl hn he _ ih =>
    intro n hk rest
    cases n with
    | zero => simp at hk
    | succ n =>
      have hk' : ks.length ≤ n := by simpa using hk
      rw [List.cons_append, walk_link hl hn he, onward, ← List.append_assoc, ih hk',
        List.length_cons, Nat.succ_sub_succ]

theorem walk_of_route (h : Route fs l steps ks m) {n : Nat} (hn : ks.length ≤ n) :
    fs.walk true n l steps = .ok (.found m) := by
  have := walk_route h hn []
  rwa [List.append_nil, walk_nil] at this

/-- **A walk that comes to a location takes a route**, with no more links than it may follow. -/
theorem exists_route {n : Nat} (h : fs.walk true n l steps = .ok (.found m)) :
    ∃ ks, ks.length ≤ n ∧ Route fs l steps ks m := by
  induction n, l, steps using walk_induction fs with
  | nil n l =>
    rw [walk_nil] at h
    cases h
    exact ⟨[], Nat.zero_le n, .done _⟩
  | notDirectory hl =>
    rw [walk_notDirectory hl] at h
    cases h
  | here hl ih =>
    rw [walk_here hl] at h
    obtain ⟨ks, hk, hr⟩ := ih h
    exact ⟨ks, hk, .here hl hr⟩
  | up hl ih =>
    rw [walk_up hl] at h
    obtain ⟨ks, hk, hr⟩ := ih h
    exact ⟨ks, hk, .up hl hr⟩
  | tooLong hl hn =>
    rw [walk_tooLong hl hn] at h
    cases h
  | absent hl hn he =>
    rw [walk_absent hl hn he] at h
    split at h <;> cases h
  | entry hl hn he hlink ih =>
    rw [walk_entry hl hn he hlink] at h
    obtain ⟨ks, hk, hr⟩ := ih h
    exact ⟨ks, hk, .entry hl hn he hlink hr⟩
  | lastLink hl hn he =>
    rw [walk_link hl hn he] at h
    cases h
  | link hl hn he ih =>
    rw [walk_link hl hn he] at h
    obtain ⟨ks, hk, hr⟩ := ih h
    exact ⟨_ :: ks, Nat.succ_le_succ hk, .link hl hn he hr⟩

/-! ## 3. What a route passes -/

theorem isDirAt_of_get? {mode : Nat} (h : fs.get? l = some (.dir mode)) : fs.isDirAt l = true := by
  simp [isDirAt, h, Entry.isDir]

theorem exists_dir (h : fs.isDirAt l = true) : ∃ mode, fs.get? l = some (.dir mode) := by
  unfold isDirAt at h
  cases he : fs.get? l with
  | none => simp [he] at h
  | some e =>
    cases e with
    | dir mode => exact ⟨mode, rfl⟩
    | _ => simp [he, Entry.isDir] at h

/-- Steps are taken from directories only. -/
theorem Route.isDirAt_of_cons {step : Step} (h : Route fs l (step :: steps) ks m) :
    fs.isDirAt l = true := by
  cases h <;> assumption

/-- A route to a directory starts in one. -/
theorem Route.isDirAt_start (h : Route fs l steps ks m) (hm : fs.isDirAt m = true) :
    fs.isDirAt l = true := by
  cases steps with
  | nil => cases h; exact hm
  | cons step rest => exact h.isDirAt_of_cons

/-- The links of a route are links. -/
theorem Route.link_of_mem (h : Route fs l steps ks m) {x : Location} (hx : x ∈ ks) :
    ∃ target, fs.get? x = some (.link target) := by
  induction h with
  | done => cases hx
  | here _ _ ih | up _ _ ih | entry _ _ _ _ _ ih => exact ih hx
  | link _ _ he _ ih =>
    rcases List.mem_cons.mp hx with rfl | hx
    · exact ⟨_, he⟩
    · exact ih hx

/-- **A route stays one** in a tree that keeps the directories, the links of the route and, if it
    does not end in a directory, something that is no link at its end. -/
theorem Route.transfer (h : Route fs l steps ks m)
    (hd : ∀ x, fs.isDirAt x = true → fs'.isDirAt x = true)
    (hk : ∀ x ∈ ks, fs'.get? x = fs.get? x)
    (hm : fs.isDirAt m = false → ∃ e, fs'.get? m = some e ∧ ∀ t, e ≠ .link t) :
    Route fs' l steps ks m := by
  induction h with
  | done l => exact .done l
  | here hl _ ih => exact .here (hd _ hl) (ih hk hm)
  | up hl _ ih => exact .up (hd _ hl) (ih hk hm)
  | @entry l m name rest ks e hl hn he hlink hr ih =>
    by_cases hx : fs.isDirAt (name :: l) = true
    · obtain ⟨mode, hmode⟩ := exists_dir (hd _ hx)
      exact .entry (hd _ hl) hn hmode (by simp) (ih hk hm)
    · -- what is no directory can only be the end of the route
      cases rest with
      | nil =>
        cases hr
        obtain ⟨e', he', hlink'⟩ := hm (by simpa using hx)
        exact .entry (hd _ hl) hn he' hlink' (.done _)
      | cons step rest => exact absurd hr.isDirAt_of_cons hx
  | link hl hn he _ ih =>
    refine .link (hd _ hl) hn ((hk _ List.mem_cons_self).trans he) ?_
    exact ih (fun x hx => hk x (List.mem_cons_of_mem _ hx)) hm

/-- **Where a link of a route has become a file, the walk fails** in front of any step after it. -/
theorem walk_severed (h : Route fs l steps ks m) (hm : fs.isDirAt m = true) {x : Location}
    (hx : x ∈ ks) {mode : Nat} {data : Bytes} (hfile : fs'.get? x = some (.file mode data))
    (hd : ∀ y, fs.isDirAt y = true → fs'.isDirAt y = true)
    (hk : ∀ y ∈ ks, y ≠ x → fs'.get? y = fs.get? y) : ∀ {n : Nat}, ks.length ≤ n →
    ∀ (step : Step) (rest : List Step),
      fs'.walk true n l (steps ++ step :: rest) = .error .notDirectory := by
  induction h with
  | done => cases hx
  | here hl _ ih =>
    intro n hn step rest
    rw [List.cons_append, walk_here (hd _ hl)]
    exact ih hm hx hk hn step rest
  | up hl _ ih =>
    intro n hn step rest
    rw [List.cons_append, walk_up (hd _ hl)]
    exact ih hm hx hk hn step rest
  | @entry l m name rest' ks e hl hn' _ _ hr ih =>
    intro n hn step rest
    obtain ⟨mode', hmode⟩ := exists_dir (hd _ (hr.isDirAt_start hm))
    rw [List.cons_append, walk_entry (hd _ hl) hn' hmode (by simp)]
    exact ih hm hx hk hn step rest
  | @link l m name rest' ks target hl hn' he hr ih =>
    intro n hn step rest
    by_cases hxl : x = name :: l
    · -- here the walk stands on the file, and there is a step left to take
      subst hxl
      have hdir : fs'.isDirAt (name :: l) = false := by simp [isDirAt, hfile, Entry.isDir]
      rw [List.cons_append, walk_entry (hd _ hl) hn' hfile (by simp)]
      have hfault := noDirectory_of_some hfile
      cases rest' with
      | nil => exact hfault ▸ walk_notDirectory hdir step
      | cons step' rest' => exact hfault ▸ walk_notDirectory hdir step'
    · have hx' : x ∈ ks := (List.mem_cons.mp hx).resolve_left hxl
      have he' := (hk _ List.mem_cons_self (Ne.symm hxl)).trans he
      cases n with
      | zero => simp at hn
      | succ n =>
        rw [List.cons_append, walk_link (hd _ hl) hn' he', onward, ← List.append_assoc]
        exact ih hm hx' (fun y hy => hk y (List.mem_cons_of_mem _ hy)) (by simpa using hn) step rest

/-- Steps taken one after the other make a route of the two parts. -/
theorem Route.exists_split {front back : List Step} (h : Route fs l (front ++ back) ks m) :
    ∃ ks₁ ks₂ c, ks = ks₁ ++ ks₂ ∧ Route fs l front ks₁ c ∧ Route fs c back ks₂ m := by
  -- on the route, not on the steps: a link puts the steps of its target in front of the rest
  generalize hs : front ++ back = steps at h
  induction h generalizing front with
  | done l =>
    obtain ⟨rfl, rfl⟩ := List.append_eq_nil_iff.mp hs
    exact ⟨[], [], l, rfl, .done l, .done l⟩
  | @here l m rest ks hl hr ih =>
    obtain ⟨rfl, rfl⟩ | ⟨front, rfl, rfl⟩ := List.append_eq_cons_iff.mp hs
    · exact ⟨[], ks, l, rfl, .done l, .here hl hr⟩
    · obtain ⟨ks₁, ks₂, c, hks, h₁, h₂⟩ := ih rfl
      exact ⟨ks₁, ks₂, c, hks, .here hl h₁, h₂⟩
  | @up l m rest ks hl hr ih =>
    obtain ⟨rfl, rfl⟩ | ⟨front, rfl, rfl⟩ := List.append_eq_cons_iff.mp hs
    · exact ⟨[], ks, l, rfl, .done l, .up hl hr⟩
    · obtain ⟨ks₁, ks₂, c, hks, h₁, h₂⟩ := ih rfl
      exact ⟨ks₁, ks₂, c, hks, .up hl h₁, h₂⟩
  | @entry l m name rest ks e hl hn he hlink hr ih =>
    obtain ⟨rfl, rfl⟩ | ⟨front, rfl, rfl⟩ := List.append_eq_cons_iff.mp hs
    · exact ⟨[], ks, l, rfl, .done l, .entry hl hn he hlink hr⟩
    · obtain ⟨ks₁, ks₂, c, hks, h₁, h₂⟩ := ih rfl
      exact ⟨ks₁, ks₂, c, hks, .entry hl hn he hlink h₁, h₂⟩
  | @link l m name rest ks target hl hn he hr ih =>
    obtain ⟨rfl, rfl⟩ | ⟨front, rfl, rfl⟩ := List.append_eq_cons_iff.mp hs
    · exact ⟨[], _, l, rfl, .done l, .link hl hn he hr⟩
    · obtain ⟨ks₁, ks₂, c, rfl, h₁, h₂⟩ := ih (List.append_assoc _ _ _)
      exact ⟨_, ks₂, c, rfl, .link hl hn he h₁, h₂⟩

/-- Steps lead to one location. -/
theorem Route.unique {m' : Location} {ks' : List Location} (h : Route fs l steps ks m)
    (h' : Route fs l steps ks' m') : m = m' := by
  have hm := walk_of_route h (Nat.le_add_right ks.length ks'.length)
  have hm' := walk_of_route h' (Nat.le_add_left ks'.length ks.length)
  have := hm.symm.trans hm'
  cases this
  rfl

/-- A link on a route to a directory leads to a directory. -/
theorem Route.link_to_dir (h : Route fs l steps ks m) (hm : fs.isDirAt m = true) {x : Location}
    (hx : x ∈ ks) : ∃ target ks' d, fs.get? x = some (.link target) ∧
      Route fs (startOf x.tail target) target.steps ks' d ∧ fs.isDirAt d = true := by
  induction h with
  | done => cases hx
  | here _ _ ih | up _ _ ih | entry _ _ _ _ _ ih => exact ih hm hx
  | @link l m name rest ks target hl _ he hr ih =>
    rcases List.mem_cons.mp hx with rfl | hx
    · obtain ⟨ks₁, ks₂, d, -, h₁, h₂⟩ := hr.exists_split
      exact ⟨target, ks₁, d, he, h₁, h₂.isDirAt_start hm⟩
    · exact ih hm hx

/-! ## 4. The links of a walk, computed -/

/-- The links that the steps of a walk follow, where those after a link are left to `onLink`. -/
def linkSteps (fs : FileSystem) (onLink : Location → Path → List Step → List Location) :
    Location → List Step → List Location
  | _, [] => []
  | l, .here :: rest => linkSteps fs onLink l rest
  | l, .up :: rest => linkSteps fs onLink l.tail rest
  | l, .down name :: rest =>
    match fs.get? (name :: l) with
    | some (.link target) => (name :: l) :: onLink l target rest
    | some _ => linkSteps fs onLink (name :: l) rest
    | none => []

/-- The links that a walk with at most the given count of them follows, in their order. -/
def linksOn (fs : FileSystem) : Nat → Location → List Step → List Location
  | 0 => linkSteps fs fun _ _ _ => []
  | n + 1 =>
    linkSteps fs fun l target rest => linksOn fs n (startOf l target) (target.steps ++ rest)

theorem linksOn_route (h : Route fs l steps ks m) : ∀ {n : Nat}, ks.length ≤ n →
    fs.linksOn n l steps = ks := by
  induction h with
  | done l => intro n _; cases n <;> rfl
  | here _ _ ih | up _ _ ih =>
    intro n hk
    rw [← ih hk]
    cases n <;> rfl
  | @entry l m name rest ks e _ _ he hlink _ ih =>
    intro n hk
    rw [← ih hk]
    cases e with
    | link t => exact absurd rfl (hlink t)
    | _ => cases n <;> simp [linksOn, linkSteps, he]
  | @link l m name rest ks target _ _ he _ ih =>
    intro n hk
    cases n with
    | zero => simp at hk
    | succ n => simp [linksOn, linkSteps, he, ih (Nat.le_of_succ_le_succ hk)]

end DeviceKeys.FileSystem
