import DeviceKeys.FileSystem.Replace
import DeviceKeys.Proofs.FileSystem.Walk

/-! # Resolving a path

A path is resolved to the path without links of what it leads to, by asking the system about one
entry after the other. It stands for itself as soon as one of the questions is too long.

* `Route.askedOn_eq`: along one route, with the same links, the same is asked in any tree.
* `replaceTarget_of_walk`: a path that leads to something is resolved to the path without links of
  that, if nothing that is asked for is too long.
-/

namespace DeviceKeys.FileSystem

open DeviceKeys.Path (Step Name)

variable {fs fs' : FileSystem} {n : Nat} {l m m' : Location} {name : Name} {steps rest : List Step}
  {ks : List Location} {p : Path}

/-! ## 1. What is asked on a walk -/

theorem askedOn_here : fs.askedOn n l (.here :: rest) = fs.askedOn n l rest := by
  cases n <;> rfl

theorem askedOn_up : fs.askedOn n l (.up :: rest) = fs.askedOn n l.tail rest := by
  cases n <;> rfl

theorem askedSteps_entry {onLink : Location → Path → List Step → List Path} {e : Entry}
    (he : fs.get? (name :: l) = some e) (hlink : ∀ t, e ≠ .link t) :
    fs.askedSteps onLink l (.down name :: rest) =
      askedAt (name :: l) rest :: fs.askedSteps onLink (name :: l) rest := by
  cases e with
  | link t => exact absurd rfl (hlink t)
  | _ => simp only [askedSteps, he]

theorem askedSteps_link {onLink : Location → Path → List Step → List Path} {target : Path}
    (he : fs.get? (name :: l) = some (.link target)) :
    fs.askedSteps onLink l (.down name :: rest) =
      pathTo (name :: l) :: onLink l target rest := by
  simp only [askedSteps, he]

theorem askedOn_entry {e : Entry} (he : fs.get? (name :: l) = some e)
    (hlink : ∀ t, e ≠ .link t) : fs.askedOn n l (.down name :: rest) =
      askedAt (name :: l) rest :: fs.askedOn n (name :: l) rest := by
  cases n <;> exact askedSteps_entry he hlink

/-- The same is asked in two trees that have the same names and the same links. -/
theorem askedSteps_congr (hsome : ∀ x, (fs'.get? x).isSome = (fs.get? x).isSome)
    (hlinks : ∀ x t, fs'.get? x = some (.link t) ↔ fs.get? x = some (.link t))
    (onLink : Location → Path → List Step → List Path) :
    ∀ (steps : List Step) (l : Location),
      fs'.askedSteps onLink l steps = fs.askedSteps onLink l steps
  | [], _ => rfl
  | .here :: rest, l => askedSteps_congr hsome hlinks onLink rest l
  | .up :: rest, l => askedSteps_congr hsome hlinks onLink rest l.tail
  | .down name :: rest, l => by
    by_cases hlink : ∃ target, fs.get? (name :: l) = some (.link target)
    · obtain ⟨target, he⟩ := hlink
      rw [askedSteps_link he, askedSteps_link ((hlinks _ _).mpr he)]
    have hno := not_exists.mp hlink
    have hno' := fun target => mt (hlinks (name :: l) target).mp (hno target)
    have hname := hsome (name :: l)
    cases he : fs.get? (name :: l) with
    | none =>
      rw [he, Option.isSome_none, Option.isSome_eq_false_iff, Option.isNone_iff_eq_none] at hname
      simp only [askedSteps, he, hname]
    | some e =>
      rw [he] at hname hno
      obtain ⟨e', he'⟩ := Option.isSome_iff_exists.mp hname
      rw [he'] at hno'
      rw [askedSteps_entry he fun t ht => hno t (congrArg some ht),
        askedSteps_entry he' fun t ht => hno' t (congrArg some ht),
        askedSteps_congr hsome hlinks onLink rest]

theorem askedOn_congr (hsome : ∀ x, (fs'.get? x).isSome = (fs.get? x).isSome)
    (hlinks : ∀ x t, fs'.get? x = some (.link t) ↔ fs.get? x = some (.link t)) :
    ∀ n : Nat, fs'.askedOn n = fs.askedOn n
  | 0 => by
    funext l steps
    exact askedSteps_congr hsome hlinks _ steps l
  | n + 1 => by
    funext l steps
    unfold askedOn
    rw [askedOn_congr hsome hlinks n]
    exact askedSteps_congr hsome hlinks _ steps l

/-- **Along one route the same is asked** in any two trees that have the same links on it. -/
theorem Route.askedOn_eq (h : Route fs l steps ks m) (h' : Route fs' l steps ks m')
    (hk : ∀ x ∈ ks, fs'.get? x = fs.get? x) (hn : ks.length ≤ n) :
    fs'.askedOn n l steps = fs.askedOn n l steps := by
  induction h generalizing n with
  | done l => cases n <;> rfl
  | here _ _ ih =>
    cases h' with
    | here _ hr' => rw [askedOn_here, askedOn_here, ih hr' hk hn]
  | up _ _ ih =>
    cases h' with
    | up _ hr' => rw [askedOn_up, askedOn_up, ih hr' hk hn]
  | entry _ _ he hlink _ ih =>
    cases h' with
    | entry _ _ he' hlink' hr' =>
      rw [askedOn_entry he hlink, askedOn_entry he' hlink', ih hr' hk hn]
    | link _ _ he' _ =>
      rw [hk _ List.mem_cons_self, he] at he'
      exact absurd (Option.some.inj he') (hlink _)
  | @link l m name rest ks target _ _ he _ ih =>
    obtain ⟨n, rfl⟩ : ∃ k, n = k + 1 := ⟨n - 1, by simp at hn; omega⟩
    have he' := (hk _ List.mem_cons_self).trans he
    unfold askedOn
    rw [askedSteps_link he, askedSteps_link he']
    cases h' with
    | entry _ _ he'' hlink' _ =>
      rw [he'] at he''
      exact absurd (Option.some.inj he'').symm (hlink' target)
    | link _ _ he'' hr' =>
      rw [he'] at he''
      cases he''
      rw [ih hr' (fun x hx => hk x (List.mem_cons_of_mem _ hx)) (Nat.le_of_succ_le_succ hn)]

/-! ## 2. The target of a replacement -/

/-- **The target of a path that leads to something** is the path without links of that, if the path
    can be resolved. -/
theorem replaceTarget_of_walk (hc : checkBytes p = .ok ())
    (hw : fs.walk true linkLimit (startOf fs.cwd p) p.steps = .ok (.found m)) :
    fs.replaceTarget p = if fs.Resolvable p then pathTo m else p := by
  unfold replaceTarget canonicalize?
  rw [hc, hw]
  by_cases hres : fs.Resolvable p
  · simp only [if_pos hres, Option.getD_some]
  · simp only [if_neg hres, Option.getD_none]

/-- The target is the path without links of what the path leads to, or the path itself. -/
theorem replaceTarget_cases (fs : FileSystem) (p : Path) :
    (∃ l, checkBytes p = .ok () ∧
      fs.walk true linkLimit (startOf fs.cwd p) p.steps = .ok (.found l) ∧
      fs.Resolvable p ∧ fs.replaceTarget p = pathTo l) ∨ fs.replaceTarget p = p := by
  cases hq : fs.canonicalize? p with
  | none =>
    unfold replaceTarget
    rw [hq]
    exact .inr rfl
  | some q =>
    unfold canonicalize? at hq
    split at hq
    · rename_i l hc hw
      split at hq
      · rename_i hres
        refine .inl ⟨l, hc, hw, hres, ?_⟩
        rw [replaceTarget_of_walk hc hw, if_pos hres]
      · cases hq
    · cases hq

end DeviceKeys.FileSystem
