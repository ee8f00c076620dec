import CloudQueue.Proofs.Plugin.Journal

/-!
# The order of snapshots

When each snapshot and the event of its build are one step (`AtOnce`), no build is between the two
in front of any other move (`Prompt`), so the builds leave their events in the order in which they
take their snapshots (`AtOnce.buildsIn_journal`).
-/

namespace CloudQueue.Runtime

open Http (Server)
open Verdict (Phase)

variable {σ γ τ θ κ δ ε : Type} {k : Constructor γ τ θ κ δ ε} {server : Server σ}
  {s : Runtime σ γ τ θ κ δ ε} {t : Task γ τ θ δ ε} {m : Move σ θ} {i j : Nat} {order : Order θ}

/-- The build that takes its snapshot with a move. -/
def snapshotBy? (s : Runtime σ γ τ θ κ δ ε) : Move σ θ → Option Nat
  | .step i =>
    match s.tasks[i]? with
    | some ⟨.call (.build _), .cell .reading⟩ => some i
    | _ => none
  | _ => none

/-- The builds in the order in which moves take their snapshots. -/
def snapshots (k : Constructor γ τ θ κ δ ε) (server : Server σ) :
    Runtime σ γ τ θ κ δ ε → List (Move σ θ) → List Nat
  | _, [] => []
  | s, m :: moves => (s.snapshotBy? m).toList ++ snapshots k server (s.apply k server m) moves

/-- Moves in which a build that takes its snapshot goes on to its event at once: behind the guard it
sees the verdict, leaves the guard and leaves its event. -/
inductive AtOnce (k : Constructor γ τ θ κ δ ε) (server : Server σ) :
    Runtime σ γ τ θ κ δ ε → List (Move σ θ) → Prop
  | nil {s : Runtime σ γ τ θ κ δ ε} : AtOnce k server s []
  | other {s : Runtime σ γ τ θ κ δ ε} {m : Move σ θ} {moves : List (Move σ θ)}
    (hm : s.snapshotBy? m = none) (hrest : AtOnce k server (s.apply k server m) moves) :
    AtOnce k server s (m :: moves)
  | snapshot {s : Runtime σ γ τ θ κ δ ε} {i : Nat} {moves : List (Move σ θ)}
    (hm : s.snapshotBy? (.step i) = some i)
    (hrest : AtOnce k server (s.run k server [.step i, .step i, .step i]) moves) :
    AtOnce k server s (.step i :: .step i :: .step i :: moves)

/-- No build is between its snapshot and its event. -/
def Prompt (s : Runtime σ γ τ θ κ δ ε) : Prop :=
  ∀ t ∈ s.tasks, ∀ order, t.job = .call (.build order) →
    t.stage.seen? ≠ none → t.stage.args? ≠ none

theorem snapshotBy?_of_atSnapshot (h : s.AtSnapshot i order) :
    s.snapshotBy? (.step i) = some i := by
  rw [snapshotBy?, h]

theorem atSnapshot_of_snapshotBy? (h : s.snapshotBy? (.step i) = some j) :
    ∃ order, s.AtSnapshot i order := by
  rw [snapshotBy?] at h
  split at h
  · exact ⟨_, ‹_›⟩
  · cases h

theorem snapshotBy?_eq_none {job : Job θ} {phase : Phase}
    (hi : s.tasks[i]? = some ⟨job, .cell phase⟩) (hphase : phase ≠ .reading) :
    s.snapshotBy? (.step i) = none := by
  rcases h : s.snapshotBy? (.step i) with _ | j
  · rfl
  · obtain ⟨order, hat⟩ := atSnapshot_of_snapshotBy? h
    cases hi.symm.trans hat
    exact absurd rfl hphase

theorem buildsIn_append (first second : List Entry) :
    buildsIn (first ++ second) = buildsIn first ++ buildsIn second := List.filterMap_append

theorem Task.Steps.args {t' : Task γ τ θ δ ε} (hsteps : t.Steps k s t')
    (h : t.stage.args? ≠ none) : t'.stage.args? ≠ none := by
  cases hsteps with
  | cell hcell => exact absurd rfl h
  | accept => exact Option.some_ne_none _
  | invoke => exact h

theorem step_getElem?_of_ne (k : Constructor γ τ θ κ δ ε) (s : Runtime σ γ τ θ κ δ ε)
    (hij : i ≠ j) : (s.step k i).tasks[j]? = s.tasks[j]? := by
  rcases hi : s.tasks[i]? with _ | t
  · rw [step_of_none k hi]
  · rcases step_tasks k hi with hstay | ⟨t', -, htasks⟩
    · rw [hstay]
    · rw [htasks, List.getElem?_set_ne hij]

theorem Prompt.buildsIn_entryBy (h : s.Prompt) (m : Move σ θ) :
    buildsIn (s.entryBy? m).toList = [] := by
  rcases hm : s.entryBy? m with _ | entry
  · rfl
  · rcases entry_cases hm with ⟨i, order, seen, -, hi, -⟩ | ⟨e, rest, -, -, rfl⟩
    · exact absurd rfl (h _ (List.mem_of_getElem? hi) order rfl (Option.some_ne_none seen))
    · rfl

theorem Prompt.apply (h : s.Prompt) (hkept : s.Kept) (k : Constructor γ τ θ κ δ ε)
    (server : Server σ) (hm : s.snapshotBy? m = none) : (s.apply k server m).Prompt := by
  intro t' ht' order hjob hseen
  obtain ⟨j, hj⟩ := List.mem_iff_getElem?.mp ht'
  rcases apply_origin k server hj with hold | ⟨rfl, u, hu, hsteps⟩ |
    ⟨-, ⟨c, rfl⟩ | ⟨inside, -, rfl⟩⟩
  · exact h t' (List.mem_of_getElem? hold) order hjob hseen
  · have hjob_u : u.job = .call (.build order) := hsteps.job_eq.symm.trans hjob
    rcases hnone : u.stage.seen? with _ | v
    · obtain ⟨v, hv⟩ := Option.ne_none_iff_exists'.mp hseen
      obtain ⟨hstage, -⟩ := hkept.snapshot_of_steps hu hjob_u hsteps hnone hv
      obtain ⟨job, stage⟩ := u
      obtain rfl : job = .call (.build order) := hjob_u
      obtain rfl : stage = .cell .reading := hstage
      cases hm.symm.trans (snapshotBy?_of_atSnapshot hu)
    · refine hsteps.args (h u (List.mem_of_getElem? hu) order hjob_u ?_)
      rw [hnone]
      exact Option.some_ne_none v
  · obtain rfl : c = .build order := Job.call.inj hjob
    exact absurd rfl hseen
  · cases hjob

/-- Where a build goes from its snapshot with three steps: it leaves the guard, has its answer, and
has the arguments of its driver. -/
theorem AtSnapshot.steps (hat : s.AtSnapshot i order) (k : Constructor γ τ θ κ δ ε) :
    (s.step k i).tasks[i]? =
      some ⟨.call (.build order), .cell (.leavingRead s.cell.inside)⟩ ∧
    ((s.step k i).step k i).tasks[i]? =
      some ⟨.call (.build order), .cell (.ended (.flag s.cell.inside))⟩ ∧
    ∃ args, (((s.step k i).step k i).step k i).tasks[i]? =
      some ⟨.call (.build order), .accepted args⟩ := by
  have hleaving : (s.step k i).tasks[i]? =
      some ⟨.call (.build order), .cell (.leavingRead s.cell.inside)⟩ :=
    step_of_cell hat (fun _ _ _ h => by cases h) k
  have hended : ((s.step k i).step k i).tasks[i]? =
      some ⟨.call (.build order), .cell (.ended (.flag s.cell.inside))⟩ :=
    step_of_cell hleaving (fun _ _ _ h => by cases h) k
  refine ⟨hleaving, hended,
    (((s.step k i).step k i).snapshot s.cell.inside).driverArgs order.queue, ?_⟩
  rw [step_of_seen hended]
  exact List.getElem?_set_self (List.getElem?_eq_some_iff.mp hended).1

/-- A build that goes on from its snapshot at once is the next that leaves an event. -/
theorem AtSnapshot.buildsIn_journal (hat : s.AtSnapshot i order) (k : Constructor γ τ θ κ δ ε)
    (server : Server σ) : buildsIn (s.journal k server [.step i, .step i, .step i]) = [i] := by
  obtain ⟨hleaving, hended, -⟩ := hat.steps k
  have hfirst : s.entryBy? (.step i) = none :=
    entryBy?_step_eq_none fun _ _ h => by cases hat.symm.trans h
  have hsecond : (s.step k i).entryBy? (.step i) = none :=
    entryBy?_step_eq_none fun _ _ h => by cases hleaving.symm.trans h
  simp [journal, Runtime.apply, hfirst, hsecond, entryBy?_step_of_seen hended, buildsIn,
    Author.build?]

theorem AtSnapshot.snapshots_eq (hat : s.AtSnapshot i order) (k : Constructor γ τ θ κ δ ε)
    (server : Server σ) : s.snapshots k server [.step i, .step i, .step i] = [i] := by
  obtain ⟨hleaving, hended, -⟩ := hat.steps k
  have hsecond : (s.step k i).snapshotBy? (.step i) = none :=
    snapshotBy?_eq_none hleaving (by simp)
  have hthird : ((s.step k i).step k i).snapshotBy? (.step i) = none :=
    snapshotBy?_eq_none hended (by simp)
  simp [snapshots, Runtime.apply, snapshotBy?_of_atSnapshot hat, hsecond, hthird]

theorem Prompt.snapshot (h : s.Prompt) (hat : s.AtSnapshot i order)
    (k : Constructor γ τ θ κ δ ε) (server : Server σ) :
    (s.run k server [.step i, .step i, .step i]).Prompt := by
  intro t ht order' hjob hseen
  obtain ⟨j, hj⟩ := List.mem_iff_getElem?.mp ht
  have hj : (((s.step k i).step k i).step k i).tasks[j]? = some t := hj
  by_cases hij : i = j
  · subst hij
    obtain ⟨-, -, args, haccepted⟩ := hat.steps k
    obtain rfl := Option.some.inj (hj.symm.trans haccepted)
    exact Option.some_ne_none args
  · rw [step_getElem?_of_ne k _ hij, step_getElem?_of_ne k _ hij,
      step_getElem?_of_ne k _ hij] at hj
    exact h t (List.mem_of_getElem? hj) order' hjob hseen

theorem snapshots_append (k : Constructor γ τ θ κ δ ε) (server : Server σ)
    (s : Runtime σ γ τ θ κ δ ε) (first second : List (Move σ θ)) :
    s.snapshots k server (first ++ second) =
      s.snapshots k server first ++ (s.run k server first).snapshots k server second := by
  induction first generalizing s with
  | nil => rfl
  | cons m first ih => rw [List.cons_append, snapshots, ih, snapshots, run_cons, List.append_assoc]

/-- **The events come in the order of the snapshots**, when each snapshot and its event are one
step. -/
theorem AtOnce.buildsIn_journal {moves : List (Move σ θ)} (h : AtOnce k server s moves)
    (hkept : s.Kept) (hprompt : s.Prompt) :
    buildsIn (s.journal k server moves) = s.snapshots k server moves := by
  induction h with
  | nil => rfl
  | other hm hrest ih =>
    rw [journal, snapshots, buildsIn_append, hprompt.buildsIn_entryBy, hm,
      ih (hkept.apply k server _) (hprompt.apply hkept k server hm)]
    rfl
  | @snapshot s i moves hm hrest ih =>
    obtain ⟨order, hat⟩ := atSnapshot_of_snapshotBy? hm
    have hsplit : .step i :: .step i :: .step i :: moves =
        [Move.step i, .step i, .step i] ++ moves := rfl
    rw [hsplit, journal_append, snapshots_append, buildsIn_append, hat.buildsIn_journal k server,
      hat.snapshots_eq k server, ih (hkept.run k server _) (hprompt.snapshot hat k server)]

end CloudQueue.Runtime
