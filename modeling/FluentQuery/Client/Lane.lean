import FluentQuery.Client

/-! How lanes move. A lane that goes on comes to wait for a later part of the same reply, or to
stand at a later point of its job. So no lane goes on for ever: `Lane.later_wf`. -/
namespace FluentQuery

variable {σ α β γ : Type}

/-- What is under way belongs to the reply. -/
def Reply.Contains (p : Pending σ α) : Reply σ α → Prop
  | .answered .. => False
  | .waiting _ change next => (p.change = change ∧ p.next = next) ∨ ∃ s, (next s).Contains p

/-- The job may come to stand in the lane. -/
def Job.Reaches {α : Type} : Job α → Lane σ α → Prop
  | .done value, lane => lane = .ended value
  | .note _ next, lane => next.Reaches lane
  | .ask request next, lane =>
    (∃ number wait, lane = .held number request wait next) ∨ ∃ answer, (next answer).Reaches lane
  | .both order first second next, lane =>
    (∃ a b, first.Reaches a ∧ second.Reaches b ∧ lane = .both order a b next) ∨
      ∃ values, (next values).Reaches lane

namespace Lane

/-- The second wait is for a part of the reply that the first waits for. -/
inductive Shorter : {r : Request} → Wait σ r → Wait σ r → Prop
  | reply {r : Request} {p q : Pending σ r.Answer} {s : σ} (h : (p.next s).Contains q) :
    Shorter (.reply q) (.reply p)
  | load {ticket : Ticket} {p q : Pending σ (List Row)} {s : σ} (h : (p.next s).Contains q) :
    Shorter (.load ticket q) (.load ticket p)

/-- The second lane has gone on to the first. -/
inductive Later : {α : Type} → Lane σ α → Lane σ α → Prop
  | shorter {α : Type} {m n : Nat} {r : Request} {v w : Wait σ r}
      {next : Except Error r.Answer → Job α} (h : Shorter v w) :
    Later (.held m r v next) (.held n r w next)
  | answered {α : Type} {n : Nat} {r : Request} {w : Wait σ r}
      {next : Except Error r.Answer → Job α} {lane : Lane σ α} (answer : Except Error r.Answer)
      (h : (next answer).Reaches lane) : Later lane (.held n r w next)
  | first {α β γ : Type} {order : Order} {a b : Lane σ β} {second : Lane σ γ}
      {next : β × γ → Job α} (h : Later a b) :
    Later (.both order a second next) (.both order b second next)
  | second {α β γ : Type} {order : Order} {first : Lane σ β} {a b : Lane σ γ}
      {next : β × γ → Job α} (h : Later a b) :
    Later (.both order first a next) (.both order first b next)
  | joined {α β γ : Type} {order : Order} {first : Lane σ β} {second : Lane σ γ}
      {next : β × γ → Job α} {lane : Lane σ α} (values : β × γ)
      (h : (next values).Reaches lane) : Later lane (.both order first second next)

/-! Moves -/

theorem contains_follow (c : Client σ) (r : Reply σ β) {d : Client σ} {p : Pending σ β}
    (h : c.follow r = (d, .partly p)) : r.Contains p := by
  induction r generalizing c with
  | answered events answer => cases h
  | waiting delay change next ih =>
    rw [Client.follow] at h
    split at h
    · exact .inr ⟨_, ih _ _ h⟩
    · cases h; exact .inl ⟨rfl, rfl⟩

theorem reaches_advance (c : Client σ) (t : Job α) : t.Reaches (c.advance t).2 := by
  induction t generalizing c with
  | done value => rfl
  | note event next ih => exact ih _
  | ask request next ih =>
    rw [Client.advance]
    split
    · exact .inr ⟨_, ih _ _⟩
    · exact .inl ⟨_, _, rfl⟩
  | both order first second next iha ihb ih =>
    rw [Client.advance_both]
    unfold Client.join
    split
    · exact .inr ⟨_, ih _ _⟩
    · exact .inl ⟨_, _, iha _, ihb _, rfl⟩

theorem shorter_of_collect? {c d : Client σ} {r : Request} {v w : Wait σ r}
    (h : c.collect? r w = some (d, .later v)) : Shorter v w := by
  cases w with
  | reply p =>
    obtain ⟨⟨e, arrival⟩, hr, ha⟩ := Option.map_eq_some_iff.1 h
    cases arrival with
    | full events answer => cases ha
    | partly q =>
      cases ha
      unfold Client.resume? at hr
      split at hr
      · exact .reply (contains_follow _ _ (Option.some.inj hr))
      · cases hr
  | load ticket p =>
    obtain ⟨⟨e, arrival⟩, hr, ha⟩ := Option.map_eq_some_iff.1 h
    cases arrival with
    | full events answer => cases ha
    | partly q =>
      cases ha
      unfold Client.resume? at hr
      split at hr
      · exact .load (contains_follow _ _ (Option.some.inj hr))
      · cases hr
  | share channel =>
    obtain ⟨outcome, -, ha⟩ := Option.map_eq_some_iff.1 h
    cases ha

theorem joined_or_both (c : Client σ) (order : Order) (first : Lane σ β) (second : Lane σ γ)
    (next : β × γ → Job α) :
    (∃ values, (next values).Reaches (c.join order first second next).2) ∨
      (c.join order first second next).2 = .both order first second next := by
  unfold Client.join
  split
  · exact .inl ⟨_, reaches_advance c _⟩
  · exact .inr rfl

theorem later_of_wake? {c d : Client σ} {n : Nat} {before after : Lane σ α}
    (h : c.wake? n before = some (d, after)) : Later after before := by
  induction before generalizing c d with
  | ended | dropped => cases h
  | held m request wait next =>
    rw [Client.wake?] at h
    split at h
    · obtain ⟨⟨e, progress⟩, hc, hp⟩ := Option.map_eq_some_iff.1 h
      cases progress with
      | now answer =>
        have : (e.advance (next answer)).2 = after := congrArg Prod.snd hp
        exact .answered answer (this ▸ reaches_advance e (next answer))
      | later v =>
        cases hp
        exact .shorter (shorter_of_collect? hc)
    · cases h
  | both order first second next iha ihb =>
    rw [Client.wake?] at h
    split at h
    · next e lane hw =>
      obtain rfl : (e.join order lane second next).2 = after :=
        congrArg Prod.snd (Option.some.inj h)
      obtain ⟨values, hv⟩ | hv := joined_or_both e order lane second next
      · exact .joined values hv
      · rw [hv]; exact .first (iha hw)
    · split at h
      · next e lane hw =>
        obtain rfl : (e.join order first lane next).2 = after :=
          congrArg Prod.snd (Option.some.inj h)
        obtain ⟨values, hv⟩ | hv := joined_or_both e order first lane next
        · exact .joined values hv
        · rw [hv]; exact .second (ihb hw)
      · cases h

/-! Ends -/

theorem acc_ended (value : α) : Acc Later (.ended value : Lane σ α) :=
  .intro _ fun _ h => nomatch h

theorem acc_reply {n : Nat} {r : Request} {next : Except Error r.Answer → Job α}
    (hn : ∀ answer (lane : Lane σ α), (next answer).Reaches lane → Acc Later lane)
    (reply : Reply σ r.Answer) {p : Pending σ r.Answer} (hp : reply.Contains p) :
    Acc Later (.held n r (.reply p) next : Lane σ α) := by
  induction reply generalizing n p with
  | answered => cases hp
  | waiting delay change after ih =>
    obtain ⟨-, rfl⟩ | ⟨s, hs⟩ := hp
    · refine .intro _ fun lane h => ?_
      cases h with
      | shorter h => cases h with | reply h => exact ih _ h
      | answered answer h => exact hn answer lane h
    · exact ih s hs

theorem acc_load {n : Nat} {ticket : Ticket} {next : Except Error Graph → Job α}
    (hn : ∀ answer (lane : Lane σ α), (next answer).Reaches lane → Acc Later lane)
    (reply : Reply σ (List Row)) {p : Pending σ (List Row)} (hp : reply.Contains p) :
    Acc Later (.held n .graph (.load ticket p) next : Lane σ α) := by
  induction reply generalizing n p with
  | answered => cases hp
  | waiting delay change after ih =>
    obtain ⟨-, rfl⟩ | ⟨s, hs⟩ := hp
    · refine .intro _ fun lane h => ?_
      cases h with
      | shorter h => cases h with | load h => exact ih _ h
      | answered answer h => exact hn answer lane h
    · exact ih s hs

theorem acc_held {n : Nat} {r : Request} {next : Except Error r.Answer → Job α}
    (hn : ∀ answer (lane : Lane σ α), (next answer).Reaches lane → Acc Later lane)
    (w : Wait σ r) : Acc Later (.held n r w next : Lane σ α) := by
  cases w with
  | reply p => exact acc_reply hn (.waiting ⟨0⟩ p.change p.next) (.inl ⟨rfl, rfl⟩)
  | load ticket p => exact acc_load hn (.waiting ⟨0⟩ p.change p.next) (.inl ⟨rfl, rfl⟩)
  | share channel =>
    refine .intro _ fun lane h => ?_
    cases h with
    | shorter h => cases h
    | answered answer h => exact hn answer lane h

theorem acc_both {order : Order} {next : β × γ → Job α}
    (hn : ∀ values (lane : Lane σ α), (next values).Reaches lane → Acc Later lane)
    {first : Lane σ β} (hf : Acc Later first) {second : Lane σ γ} (hs : Acc Later second) :
    Acc Later (.both order first second next) := by
  induction hf generalizing second with
  | intro first _ ihf =>
    induction hs with
    | intro second hs ihs =>
      refine .intro _ fun lane h => ?_
      cases h with
      | first h => exact ihf _ h (.intro _ hs)
      | second h => exact ihs _ h
      | joined values h => exact hn values lane h

theorem acc_of_reaches {t : Job α} {lane : Lane σ α} (h : t.Reaches lane) : Acc Later lane := by
  induction t with
  | done value => cases h; exact acc_ended value
  | note event next ih => exact ih h
  | ask request next ih =>
    obtain ⟨n, w, rfl⟩ | ⟨answer, h⟩ := h
    · exact acc_held (fun answer _ => ih answer) w
    · exact ih answer h
  | both order first second next iha ihb ih =>
    obtain ⟨a, b, ha, hb, rfl⟩ | ⟨values, h⟩ := h
    · exact acc_both (fun values _ => ih values) (iha ha) (ihb hb)
    · exact ih values h

/-- No lane goes on for ever. -/
theorem later_wf : WellFounded (Later (σ := σ) (α := α)) := by
  refine ⟨fun lane => ?_⟩
  induction lane with
  | ended value => exact acc_ended value
  | dropped => exact .intro _ fun _ h => nomatch h
  | held n request wait next => exact acc_held (fun _ _ h => acc_of_reaches h) wait
  | both order first second next iha ihb => exact acc_both (fun _ _ h => acc_of_reaches h) iha ihb

end Lane

end FluentQuery
