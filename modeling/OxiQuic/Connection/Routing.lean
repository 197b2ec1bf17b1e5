import OxiQuic.Connection.LedgerRecv

/-!
# Challenges and their echoes

What moves of a ledger do to its route, told from the history: the route changes only where
the outstanding nonce is echoed, and packets go where the route says.
-/

namespace OxiQuic

variable {P : Platform} {l' l : Ledger P}

/-- The nonces that an event sends, with where they go. -/
def Event.challenges : Event P → List (SocketAddr × Bytes)
  | .sent dest _ frames => frames.filterMap fun
      | .pathChallenge nonce => some (dest, nonce)
      | _ => none
  | _ => []

/-- The nonce that an event echoes. -/
def Event.response : Event P → Option Bytes
  | .received _ (.pathResponse nonce) => some nonce
  | _ => none

/-- The challenges sent. -/
def challenges (trace : List (Event P)) : List (SocketAddr × Bytes) :=
  trace.flatMap Event.challenges

/-- The nonces echoed. -/
def responses (trace : List (Event P)) : List Bytes := trace.filterMap Event.response

@[simp] theorem challenges_append (trace trace' : List (Event P)) :
    challenges (trace ++ trace') = challenges trace ++ challenges trace' := List.flatMap_append

@[simp] theorem responses_append (trace trace' : List (Event P)) :
    responses (trace ++ trace') = responses trace ++ responses trace' := List.filterMap_append

theorem Event.dest_of_mem_challenges {dest : SocketAddr} {space : SpaceKind} {frames : List Frame}
    {p : SocketAddr × Bytes}
    (h : p ∈ (Event.sent dest space frames : Event P).challenges) : p.1 = dest := by
  obtain ⟨frame, -, hframe⟩ := List.mem_filterMap.mp h
  cases frame <;> cases hframe
  rfl

/-- The last events of a history, those that an earlier history lacks. -/
def since (earlier later : List (Event P)) : List (Event P) :=
  later.take (later.length - earlier.length)

theorem since_append (new earlier : List (Event P)) : since earlier (new ++ earlier) = new := by
  simp [since]

namespace Ledger

/-- What a move can do to the route: nothing, or what the echo of a nonce does. -/
inductive Routing (l l' : Ledger P) : Prop where
  | same (new : List (Event P)) : l'.route = l.route → l'.trace = new ++ l.trace →
      responses new = [] → (∀ p ∈ challenges new, p.1 = l.route.addr) → Routing l l'
  | answer (nonce : Bytes) (new : List (Event P)) : l'.route = l.route.respond nonce →
      l'.trace = new ++ l.trace → responses new = [nonce] → challenges new = [] → Routing l l'

theorem Routing.still (hroute : l'.route = l.route) (htrace : l'.trace = l.trace) : Routing l l' :=
  .same [] hroute htrace rfl nofun

theorem Routing.quiet (new : List (Event P)) (hroute : l'.route = l.route)
    (htrace : l'.trace = new ++ l.trace)
    (hquiet : ∀ e ∈ new, e.challenges = [] ∧ e.response = none) : Routing l l' := by
  refine .same new hroute htrace ?_ fun p hp => ?_
  · exact List.filterMap_eq_nil_iff.mpr fun e he => (hquiet e he).2
  obtain ⟨e, he, hpe⟩ := List.mem_flatMap.mp hp
  rw [(hquiet e he).1] at hpe
  cases hpe

theorem Routing.event {e : Event P} (hroute : l'.route = l.route)
    (htrace : l'.trace = e :: l.trace) (hchallenges : e.challenges = [])
    (hresponse : e.response = none) : Routing l l' := by
  refine .quiet [e] hroute htrace fun e' he' => ?_
  rw [List.mem_singleton.mp he']
  exact ⟨hchallenges, hresponse⟩

theorem Move.routing (hmove : Move l l') : Routing l l' := by
  cases hmove with
  | @note e hnote =>
    cases e with
    | sent dest space frames =>
      refine .same [_] rfl rfl rfl fun p hp => ?_
      rw [challenges, List.flatMap_singleton] at hp
      exact (Event.dest_of_mem_challenges hp).trans hnote
    | received packetType frame =>
      cases frame with
      | pathResponse => exact hnote.elim
      | _ => exact .event rfl rfl rfl rfl
    | _ => exact hnote.elim
  | respond packetType nonce => exact .answer nonce [_] rfl rfl rfl rfl
  | oneRtt | skip | requeue | accept | deliver => exact .still rfl rfl
  | ack | lose => exact .quiet _ rfl rfl (by simp [Event.challenges, Event.response])
  | _ => exact .event rfl rfl rfl rfl

/-- What moves do to the route: nothing as long as the outstanding nonce is not echoed, and
the first echo settles it. -/
inductive Routed (l l' : Ledger P) (new : List (Event P)) : Prop where
  | same : l'.route = l.route → (∀ nonce ∈ l.route.challenge, nonce ∉ responses new) →
      Routed l l' new
  | settled (nonce : Bytes) : nonce ∈ l.route.challenge → nonce ∈ responses new →
      l'.route = l.route.settle → Routed l l' new

theorem Moves.routed (h : Moves l l') : ∃ new, l'.trace = new ++ l.trace ∧ Routed l l' new := by
  induction h with
  | refl => exact ⟨[], rfl, .same rfl fun _ _ => List.not_mem_nil⟩
  | @tail m l' _ hmove ih =>
    obtain ⟨new, htrace, hrouted⟩ := ih
    cases hmove.routing with
    | same new' hroute htrace' hresponses =>
      refine ⟨new' ++ new, by rw [htrace', htrace, List.append_assoc], ?_⟩
      have hsame : responses (new' ++ new) = responses new := by simp [hresponses]
      cases hrouted with
      | same hm hnone => exact .same (hroute.trans hm) (hsame ▸ hnone)
      | settled nonce hnonce hecho hm =>
        exact .settled nonce hnonce (hsame ▸ hecho) (hroute.trans hm)
    | answer echo new' hroute htrace' hresponses _ =>
      refine ⟨new' ++ new, by rw [htrace', htrace, List.append_assoc], ?_⟩
      have hmore : responses (new' ++ new) = echo :: responses new := by simp [hresponses]
      cases hrouted with
      | same hm hnone =>
        rw [hm, Route.respond] at hroute
        split at hroute
        · rename_i hecho
          exact .settled echo hecho (hmore ▸ List.mem_cons_self) hroute
        rename_i hecho
        refine .same hroute fun nonce hnonce hmem => ?_
        rcases List.mem_cons.mp (hmore ▸ hmem) with rfl | hmem
        · exact hecho hnonce
        · exact hnone nonce hnonce hmem
      | settled nonce hnonce hecho hm =>
        -- no nonce is outstanding any more
        have hsettled : m.route.respond echo = m.route := by
          rw [hm]
          exact if_neg nofun
        exact .settled nonce hnonce (hmore ▸ List.mem_cons_of_mem _ hecho)
          (hroute.trans (hsettled.trans hm))

/-- The outstanding nonce has been sent to the address that packets go to, and nowhere
else. -/
def Faces (l : Ledger P) : Prop :=
  ∀ p ∈ challenges l.trace, l.route.challenge = some p.2 → p.1 = l.route.addr

theorem faces_move (h : l.Faces) (hmove : Move l l') : l'.Faces := by
  intro p hp hnonce
  cases hmove.routing with
  | same new hroute htrace _ hsent =>
    rw [hroute] at hnonce ⊢
    rw [htrace, challenges_append, List.mem_append] at hp
    rcases hp with hp | hp
    · exact hsent p hp
    · exact h p hp hnonce
  | answer echo new hroute htrace _ hnone =>
    rw [htrace, challenges_append, hnone, List.nil_append] at hp
    rw [hroute, Route.respond] at hnonce ⊢
    split at hnonce
    · cases hnonce
    · rw [if_neg ‹_›]
      exact h p hp hnonce

end Ledger

end OxiQuic
