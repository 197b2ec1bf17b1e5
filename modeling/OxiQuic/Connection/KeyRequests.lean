import OxiQuic.Connection.KeyAgreement

/-!
# Requests for key updates

A key update that was asked for is carried out with the next 1-RTT packet.  The cooldown is
compared with the clock when it is asked for, not when it is carried out, so that it is kept
unless an update of the peer comes between the two (`key_update_cooled_iff`).
-/

namespace OxiQuic

open Lib

variable {P : Platform}

namespace Connection

/-- The last key update does not forbid another at this time. -/
abbrev CooledBy (c : Connection P) (now : Time) : Prop :=
  ∀ cooldown ∈ c.keyUpdate.keyUpdateCooldown, cooldown ≤ now

theorem initiateKeyUpdate_cases (c : Connection P) (now : Time) :
    c.initiateKeyUpdate now = (c, false) ∨
    c.initiateKeyUpdate now =
      ({ c with keyUpdate := { c.keyUpdate with keyUpdatePending := true } }, true) ∧
      c.CooledBy now := by
  simp only [initiateKeyUpdate]
  split <;> rename_i hcooldown <;> split
  · exact .inl rfl
  · rename_i hopen
    simp only [Bool.or_eq_true, decide_eq_true_eq, not_or] at hopen
    refine .inr ⟨rfl, fun _ hsome => ?_⟩
    cases hcooldown.symm.trans hsome
    exact Nat.le_of_not_lt hopen.1.1
  · exact .inl rfl
  · exact .inr ⟨rfl, fun _ hsome => by cases hcooldown.symm.trans hsome⟩

end Connection

/-- A connection, how many requests for a key update it accepted, the last of them at `asked` in
the given epoch, and how many updates of its own it carried out. -/
structure Requests (P : Platform) where
  conn : Connection P
  accepted : Nat := 0
  asked : Time := 0
  epoch : Nat := 0
  carried : Nat := 0

namespace Requests

def start (c : Connection P) : Requests P := { conn := c }

def step (r : Requests P) (op : Op) : Requests P :=
  let conn := r.conn.step op
  match op with
  | .initiateKeyUpdate now =>
    if (r.conn.initiateKeyUpdate now).2 then
      { r with conn, accepted := r.accepted + 1, asked := now, epoch := r.conn.epoch }
    else { r with conn }
  | .pollTransmit _ _ => { r with conn, carried := r.carried + (conn.epoch - r.conn.epoch) }
  | _ => { r with conn }

/-- A transmission is not dated before the request. -/
def Clocked (r : Requests P) : Op → Prop
  | .pollTransmit now _ => r.asked ≤ now
  | _ => True

/-- An update is carried out only after the cooldown. -/
def Cooled (r : Requests P) : Op → Prop
  | .pollTransmit now out =>
    (r.step (.pollTransmit now out)).carried ≠ r.carried → r.conn.CooledBy now
  | _ => True

/-- If an update of the peer came after the request, an update is carried out only after the
cooldown. -/
def Waits (r : Requests P) : Op → Prop
  | .pollTransmit now out => r.conn.epoch ≠ r.epoch → r.Cooled (.pollTransmit now out)
  | _ => True

instance (r : Requests P) (op : Op) : Decidable (r.Clocked op) := by
  unfold Clocked
  split <;> infer_instance

instance (r : Requests P) (op : Op) : Decidable (r.Cooled op) := by
  unfold Cooled
  split <;> infer_instance

/-- The requests so far cover the updates and the request that waits, which was made after the
cooldown of its epoch. -/
structure Covered (r : Requests P) : Prop where
  owed : r.carried + r.conn.asking.toNat ≤ r.accepted
  epoch : r.conn.asking = true → r.epoch ≤ r.conn.epoch
  cooled : r.conn.asking = true → r.conn.epoch = r.epoch → r.conn.CooledBy r.asked

variable {r : Requests P}

theorem Covered.kept (h : r.Covered) {op : Op} {conn : Connection P}
    (hpaced : Connection.Paced op r.conn conn) {carried : Nat}
    (howed : carried + conn.asking.toNat ≤ r.carried + r.conn.asking.toNat) :
    ({ r with conn, carried } : Requests P).Covered where
  owed := howed.trans h.owed
  epoch hasking := (h.epoch (hpaced.asked hasking)).trans hpaced.epoch
  cooled hasking hsame cooldown hcooldown := by
    have hbefore := hpaced.asked hasking
    have hepoch : conn.epoch = r.conn.epoch :=
      Nat.le_antisymm (hsame.le.trans (h.epoch hbefore)) hpaced.epoch
    exact h.cooled hbefore (hepoch.symm.trans hsame) cooldown
      ((hpaced.cooldown hepoch).symm.trans hcooldown)

theorem Covered.asks (h : r.Covered) (now : Time) : (r.step (.initiateKeyUpdate now)).Covered := by
  simp only [step, Connection.step]
  rcases r.conn.initiateKeyUpdate_cases now with hrefused | ⟨haccepted, hcooled⟩
  · rw [hrefused]
    exact h
  · rw [haccepted]
    have howed : r.carried ≤ r.accepted := (Nat.le_add_right _ _).trans h.owed
    exact ⟨Nat.succ_le_succ howed, fun _ => Nat.le_refl _, fun _ _ => hcooled⟩

theorem Covered.step (h : r.Covered) (op : Op) : (r.step op).Covered := by
  by_cases hask : ∃ now, op = .initiateKeyUpdate now
  · obtain ⟨now, rfl⟩ := hask
    exact h.asks now
  have hpaced := r.conn.step_paced op fun now hop => hask ⟨now, hop⟩
  have hasked := Bool.toNat_le_toNat hpaced.asked
  cases op with
  | initiateKeyUpdate now => exact absurd ⟨now, rfl⟩ hask
  | pollTransmit now out =>
    have hspent := hpaced.spent now out rfl
    have hepoch := hpaced.epoch
    exact h.kept hpaced (by omega)
  | _ => exact h.kept hpaced (by omega)

theorem Covered.cooled_iff (h : r.Covered) {op : Op} (hclock : r.Clocked op) :
    r.Cooled op ↔ r.Waits op := by
  cases op with
  | pollTransmit now out =>
    refine ⟨fun hcooled _ => hcooled, fun hwaits hcarried => ?_⟩
    have hpaced := r.conn.step_paced (.pollTransmit now out) fun _ hop => by cases hop
    have hspent := hpaced.spent now out rfl
    have hasking : r.conn.asking = true := by
      by_contra hnot
      rw [Bool.eq_false_iff.mpr hnot] at hspent
      simp only [Requests.step, Bool.toNat_false] at hcarried hspent
      omega
    by_cases hsame : r.conn.epoch = r.epoch
    · exact fun cooldown hcooldown => (h.cooled hasking hsame cooldown hcooldown).trans hclock
    · exact hwaits hsame hcarried
  | _ => exact Iff.rfl

end Requests

/-- Each update of a run that the connection carries out itself keeps the cooldown, if and only if
those do that an update of the peer came before while they were waiting; and there are no more of
them than accepted requests. -/
theorem key_update_cooled_iff {c : Connection P} (hfresh : c.Fresh) {ops : List Op}
    (hclock : Along Requests.step Requests.Clocked (.start c) ops) :
    (Along Requests.step Requests.Cooled (.start c) ops ↔
      Along Requests.step Requests.Waits (.start c) ops) ∧
    (run Requests.step (.start c) ops).carried ≤ (run Requests.step (.start c) ops).accepted := by
  have hstart : (Requests.start c).Covered := by
    have hidle : c.asking = false := by cases hfresh <;> rfl
    have hnever : ∀ {p : Prop}, c.asking = true → p := fun hasking => by
      rw [hidle] at hasking
      cases hasking
    exact ⟨by simp [Requests.start, hidle], hnever, hnever⟩
  constructor
  · exact Along.iff_of_invariant (fun _ op h _ => h.step op) (fun _ _ h => h.cooled_iff) hstart hclock
  · have hrun := run_invariant (I := Requests.Covered) (fun _ op h => h.step op) ops hstart
    exact (Nat.le_add_right _ _).trans hrun.owed

theorem key_update_cooled_rekeys :
    (run Requests.step (.start (Plain.client [])) Plain.rekeys).carried = 1 ∧
    (Along Requests.step Requests.Cooled (.start (Plain.client [])) Plain.rekeys ↔
      Along Requests.step Requests.Waits (.start (Plain.client [])) Plain.rekeys) :=
  ⟨by decide +kernel, (key_update_cooled_iff (Plain.client_fresh []) (by decide +kernel)).1⟩

/-- A client asks for an update, follows one of the server and then transmits. -/
def Plain.overtaken : List Op :=
  joins (client []) ++ [.pollTransmit 2 [], .initiateKeyUpdate 3,
    .handleDatagram 4 (shortPacket (client []) 1 0 [.ping]), .pollTransmit 5 []]

theorem key_update_overtaken :
    Along Requests.step Requests.Clocked (.start (Plain.client [])) Plain.overtaken ∧
    ¬ Along Requests.step Requests.Cooled (.start (Plain.client [])) Plain.overtaken := by
  decide +kernel

end OxiQuic
