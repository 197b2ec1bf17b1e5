/-!
# Runs of a state machine

A machine is a step function from a state and an input to a state.  `run` folds it over a
list of inputs, and `Along` says that a condition on state and input holds at every step
of the run.  An invariant that every step keeps, under the condition, holds at the end.
`Throughout` is the same for a history of events.
-/

namespace Lib

universe u v w

variable {σ : Type u} {ι : Type v}

/-- The state after a list of inputs. -/
def run (step : σ → ι → σ) : σ → List ι → σ
  | s, [] => s
  | s, i :: is => run step (step s i) is

theorem run_append (step : σ → ι → σ) :
    ∀ (s : σ) (is js : List ι), run step s (is ++ js) = run step (run step s is) js
  | _, [], _ => rfl
  | s, i :: is, js => run_append step (step s i) is js

theorem foldl_kept {β : Type w} {f : σ → β} {g : σ → ι → σ} (hg : ∀ s i, f (g s i) = f s)
    (is : List ι) (s : σ) : f (is.foldl g s) = f s := by
  induction is generalizing s with
  | nil => rfl
  | cons i is ih => exact (ih (g s i)).trans (hg s i)

/-- The condition `C` holds of the state and the input at every step of a run. -/
def Along (step : σ → ι → σ) (C : σ → ι → Prop) : σ → List ι → Prop
  | _, [] => True
  | s, i :: is => C s i ∧ Along step C (step s i) is

instance Along.decidable (step : σ → ι → σ) (C : σ → ι → Prop) [∀ s i, Decidable (C s i)] :
    ∀ (s : σ) (is : List ι), Decidable (Along step C s is)
  | _, [] => .isTrue trivial
  | s, i :: is =>
    have := Along.decidable step C (step s i) is
    inferInstanceAs (Decidable (C s i ∧ _))

theorem Along.imp {step : σ → ι → σ} {C D : σ → ι → Prop} (h : ∀ s i, C s i → D s i) :
    ∀ {s : σ} {is : List ι}, Along step C s is → Along step D s is
  | _, [], _ => trivial
  | s, i :: _, hC => ⟨h s i hC.1, hC.2.imp h⟩

theorem Along.of_forall {step : σ → ι → σ} {C : σ → ι → Prop} (h : ∀ s i, C s i) :
    ∀ {s : σ} {is : List ι}, Along step C s is
  | _, [] => trivial
  | s, i :: _ => ⟨h s i, Along.of_forall h⟩

theorem Along.of_mem {step : σ → ι → σ} {C : ι → Prop} :
    ∀ {s : σ} {is : List ι}, (∀ i ∈ is, C i) → Along step (fun _ i => C i) s is
  | _, [], _ => trivial
  | _, i :: _, h =>
    ⟨h i List.mem_cons_self, Along.of_mem fun i' hi' => h i' (List.mem_cons_of_mem i hi')⟩

theorem Along.and {step : σ → ι → σ} {C D : σ → ι → Prop} :
    ∀ {s : σ} {is : List ι}, Along step C s is → Along step D s is →
      Along step (fun s i => C s i ∧ D s i) s is
  | _, [], _, _ => trivial
  | _, _ :: _, hC, hD => ⟨⟨hC.1, hD.1⟩, hC.2.and hD.2⟩

theorem Along.invariant {step : σ → ι → σ} {C : σ → ι → Prop} {I : σ → Prop} :
    ∀ {s : σ} {is : List ι}, Along step C s is →
      (∀ s, ∀ i ∈ is, I s → C s i → I (step s i)) → I s → I (run step s is)
  | _, [], _, _, h => h
  | s, i :: _, hc, hstep, h =>
    Along.invariant (s := step s i) hc.2 (fun s' i' hi' => hstep s' i' (List.mem_cons_of_mem _ hi'))
      (hstep s i List.mem_cons_self h hc.1)

/-- A condition follows from another along a run if it does wherever an invariant holds. -/
theorem Along.imp_of_invariant {step : σ → ι → σ} {C D : σ → ι → Prop} {I : σ → Prop}
    (hstep : ∀ s i, I s → C s i → I (step s i)) (himp : ∀ s i, I s → C s i → D s i) :
    ∀ {s : σ} {is : List ι}, I s → Along step C s is → Along step D s is
  | _, [], _, _ => trivial
  | s, i :: _, h, hc =>
    ⟨himp s i h hc.1, Along.imp_of_invariant hstep himp (hstep s i h hc.1) hc.2⟩

/-- Two conditions that agree wherever an invariant and a third condition hold are met by the
same runs. -/
theorem Along.iff_of_invariant {step : σ → ι → σ} {C D D' : σ → ι → Prop} {I : σ → Prop}
    (hstep : ∀ s i, I s → C s i → I (step s i)) (hiff : ∀ s i, I s → C s i → (D s i ↔ D' s i)) :
    ∀ {s : σ} {is : List ι}, I s → Along step C s is → (Along step D s is ↔ Along step D' s is)
  | _, [], _, _ => Iff.rfl
  | s, i :: _, h, hc =>
    and_congr (hiff s i h hc.1)
      (Along.iff_of_invariant (s := step s i) hstep hiff (hstep s i h hc.1) hc.2)

/-- A property stays along a run exactly if each step meets a condition, where from a state with
the property a step leads to one with it exactly under the condition.  A condition `C` on all steps
may be used, and an invariant `I` that steps keep as long as the property stays. -/
theorem Along.stays_iff {step : σ → ι → σ} {C D : σ → ι → Prop} {I W : σ → Prop}
    (hstep : ∀ s i, I s → C s i → W s → W (step s i) → I (step s i))
    (hiff : ∀ s i, I s → C s i → W s → (W (step s i) ↔ D s i)) :
    ∀ {s : σ} {is : List ι}, I s → W s → Along step C s is →
      (Along step (fun s i => W (step s i)) s is ↔ Along step D s is)
  | _, [], _, _, _ => Iff.rfl
  | s, i :: _, hI, hW, hC => by
      have hhead := hiff s i hI hC.1 hW
      have hrest := fun hnext : W (step s i) =>
        Along.stays_iff hstep hiff (hstep s i hI hC.1 hW hnext) hnext hC.2
      constructor
      · exact fun h => ⟨hhead.mp h.1, (hrest h.1).mp h.2⟩
      · exact fun h => ⟨hhead.mpr h.1, (hrest (hhead.mpr h.1)).mpr h.2⟩

theorem run_invariant {step : σ → ι → σ} {I : σ → Prop} (hstep : ∀ s i, I s → I (step s i)) :
    ∀ {s : σ} (is : List ι), I s → I (run step s is)
  | _, [], h => h
  | s, i :: is, h => run_invariant hstep is (hstep s i h)

/-! ## Runs that end -/

/-- A condition holds of each event of a history, newest first, and of what came before it. -/
def Throughout (C : List ι → ι → Bool) : List ι → Prop
  | [] => True
  | e :: rest => C rest e = true ∧ Throughout C rest

instance Throughout.decidable (C : List ι → ι → Bool) :
    ∀ (events : List ι), Decidable (Throughout C events)
  | [] => .isTrue trivial
  | e :: rest =>
    have := Throughout.decidable C rest
    inferInstanceAs (Decidable (C rest e = true ∧ Throughout C rest))

/-- A function of a history ignores a list of events if it ignores each of them. -/
theorem append_ignored {β : Sort _} {f : List ι → β} {new : List ι}
    (h : ∀ e ∈ new, ∀ events, f (e :: events) = f events) (events : List ι) :
    f (new ++ events) = f events := by
  induction new with
  | nil => rfl
  | cons e rest ih =>
    obtain ⟨he, hrest⟩ := List.forall_mem_cons.mp h
    exact (he _).trans (ih hrest)

theorem Throughout.of_suffix {C : List ι → ι → Bool} {events events' : List ι}
    (h : Throughout C events') (hsuffix : events <:+ events') : Throughout C events := by
  obtain ⟨new, rfl⟩ := hsuffix
  induction new with
  | nil => exact h
  | cons e rest ih => exact ih h.2

end Lib
