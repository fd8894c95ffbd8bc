import Lehen.Enduring

/-!
Programs of two kinds of operations over one state, of which each kind sees a part.
What a program of one kind comes to on its part, it comes to on the whole.
-/

namespace Lehen.Prog

variable {Op Op' : Type} {Res : Op → Type} {Res' : Op' → Type} {Err α β σ σ' τ : Type}

@[reducible] def SumRes (Res : Op → Type) (Res' : Op' → Type) : Op ⊕ Op' → Type
  | .inl op => Res op
  | .inr op => Res' op

def left : Prog Op Res Err α → Prog (Op ⊕ Op') (SumRes Res Res') Err α
  | .ret value => .ret value
  | .raise error => .raise error
  | .await op resume => .await (.inl op) fun answer => left (resume answer)

def right : Prog Op' Res' Err α → Prog (Op ⊕ Op') (SumRes Res Res') Err α
  | .ret value => .ret value
  | .raise error => .raise error
  | .await op resume => .await (.inr op) fun answer => right (resume answer)

/-- A part of a state. -/
structure Part (τ σ : Type) where
  get : τ → σ
  put : τ → σ → τ
  get_put : ∀ state part, get (put state part) = part

def sumExec (first : Part τ σ) (second : Part τ σ')
    (exec : (op : Op) → σ → Except Err (Res op) × σ)
    (exec' : (op : Op') → σ' → Except Err (Res' op) × σ') :
    (op : Op ⊕ Op') → τ → Except Err (SumRes Res Res' op) × τ
  | .inl op, state =>
      ((exec op (first.get state)).1, first.put state (exec op (first.get state)).2)
  | .inr op, state =>
      ((exec' op (second.get state)).1, second.put state (exec' op (second.get state)).2)

/-- An order on states that on a part is an order on the part. -/
structure Part.Monotone (part : Part τ σ) (later : σ → σ → Prop) (laterAll : τ → τ → Prop) : Prop where
  seen : ∀ before after, laterAll before after → later (part.get before) (part.get after)
  moved : ∀ state after, later (part.get state) after → laterAll state (part.put state after)

variable {first : Part τ σ} {second : Part τ σ'} {exec : (op : Op) → σ → Except Err (Res op) × σ}
  {exec' : (op : Op') → σ' → Except Err (Res' op) × σ'} {laterAll : τ → τ → Prop} {state : τ}

theorem endures_left {later : σ → σ → Prop} {post : Except Err α → σ → Prop} {body : Prog Op Res Err α}
    (monotone : first.Monotone later laterAll) (endures : body.Endures exec later post (first.get state)) :
    (left body).Endures (sumExec first second exec exec') laterAll (fun outcome now => post outcome (first.get now))
      state := by
  induction body generalizing state with
  | ret value => exact fun now after => endures _ (monotone.seen _ _ after)
  | raise error => exact fun now after => endures _ (monotone.seen _ _ after)
  | await op resume ih =>
      intro now after
      obtain ⟨moved, rest⟩ := endures (first.get now) (monotone.seen _ _ after)
      refine ⟨monotone.moved _ _ moved, ih _ ?_⟩
      rw [sumExec, first.get_put]
      exact rest

theorem endures_right {later : σ' → σ' → Prop} {post : Except Err α → σ' → Prop}
    {body : Prog Op' Res' Err α} (monotone : second.Monotone later laterAll)
    (endures : body.Endures exec' later post (second.get state)) :
    (right body).Endures (sumExec first second exec exec') laterAll
      (fun outcome now => post outcome (second.get now)) state := by
  induction body generalizing state with
  | ret value => exact fun now after => endures _ (monotone.seen _ _ after)
  | raise error => exact fun now after => endures _ (monotone.seen _ _ after)
  | await op resume ih =>
      intro now after
      obtain ⟨moved, rest⟩ := endures (second.get now) (monotone.seen _ _ after)
      refine ⟨monotone.moved _ _ moved, ih _ ?_⟩
      rw [sumExec, second.get_put]
      exact rest

end Lehen.Prog
