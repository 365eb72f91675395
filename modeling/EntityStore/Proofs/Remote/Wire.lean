import EntityStore.Proofs.Time.Timestamp
import EntityStore.Proofs.Value.Parts

/-!
# What is sent for a parameter

What is sent for a value has the shape of the value, with lists for tuples, and differs from it in
scalars of three kinds only (`Value.SentAs`).  No tuple and no scalar of these kinds is left in it at
any depth, so it is sent as it is when it is sent again (`Value.toWire_of_onWire`).

A value that cannot be sent has a part that cannot: a time outside of the calendar or a signaling
not-a-number.  Whether parts are sent or one is refused, and what comes of it, is put together from
the parts as the value is (`Sending` and its rules).
-/

namespace EntityStore

/-! ### What is sent -/

/-- Whether a scalar is sent as it is. -/
def Scalar.isOnWire : Scalar → Bool
  | .datetime _ | .date _ | .decimal _ => false
  | _ => true

/-- **What is sent for a scalar.** -/
inductive Scalar.SentAs : Scalar → Scalar → Prop
  | time {t : DateTime} {s : String} (h : t.timestamp? = some s) : SentAs (.datetime t) (.str s)
  | day (d : Date) : SentAs (.date d) (.str d.text)
  | number {d : Decimal} {x : Double} (h : d.toDouble? = some x) : SentAs (.decimal d) (.float x)
  | same {s : Scalar} (h : s.isOnWire = true) : SentAs s s

/-- **What is sent for a value**: item by item and field by field, under the same keys. -/
inductive Value.SentAs : Value → Value → Prop
  | scalar {s t : Scalar} (h : s.SentAs t) : SentAs (.scalar s) (.scalar t)
  | list {items sent : List Value} (h : List.Forall₂ SentAs items sent) :
    SentAs (.list items) (.list sent)
  | tuple {items sent : List Value} (h : List.Forall₂ SentAs items sent) :
    SentAs (.tuple items) (.list sent)
  | object {fields sent : Fields} (hkeys : fields.keys = sent.keys)
    (h : List.Forall₂ SentAs (fields.map Prod.snd) (sent.map Prod.snd)) :
    SentAs (.object fields) (.object sent)

/-- Whether a value is of a kind that stays as it is when it is sent. -/
def Value.isOnWire : Value → Bool
  | .scalar s => s.isOnWire
  | .list _ | .object _ => true
  | .tuple _ | .filter _ => false

/-- **Why a value cannot be sent.** -/
inductive Value.Refused : Value → Failure → Prop
  | time {t : DateTime} (h : ¬ t.InCalendar) : Refused (.scalar (.datetime t)) .outsideCalendar
  | number {d : Decimal} (h : d.isSignaling = true) : Refused (.scalar (.decimal d)) .signalingNumber

/-- Whether a value is data, which a filter is not. -/
def Value.isData : Value → Bool
  | .filter _ => false
  | _ => true

/-! ### Sending parts -/

/-- **What becomes of parts that are to be sent**: none is refused, and the result is as it should be, or
one is. -/
inductive Sending {α : Type} (parts : List (Place × Value)) (Sent : α → Prop) :
    Except Failure α → Prop
  | sent {a : α} (h : Sent a) (hparts : ∀ q ∈ parts, ∀ e, ¬ q.2.Refused e) :
    Sending parts Sent (.ok a)
  | refused {q : Place × Value} {e : Failure} (hq : q ∈ parts) (h : q.2.Refused e) :
    Sending parts Sent (.error e)

namespace Sending

variable {α β : Type} {parts parts' : List (Place × Value)} {Sent : α → Prop} {Sent' : β → Prop}
  {r : Except Failure α}

theorem nothing {a : α} (h : Sent a) : Sending [] Sent (.ok a) := .sent h (List.forall_mem_nil _)

/-- A part that is not refused itself makes no difference. -/
theorem whole {q : Place × Value} (hq : ∀ e, ¬ q.2.Refused e) (h : Sending parts Sent r) :
    Sending (q :: parts) Sent r := by
  cases h with
  | sent h hparts => exact .sent h (List.forall_mem_cons.2 ⟨hq, hparts⟩)
  | refused hmem h => exact .refused (List.mem_cons_of_mem q hmem) h

theorem map {f : α → β} (h : Sending parts Sent r) (hf : ∀ a, Sent a → Sent' (f a)) :
    Sending parts Sent' (r.map f) := by
  cases h with
  | sent h hparts => exact .sent (hf _ h) hparts
  | refused hmem h => exact .refused hmem h

/-- Parts are sent one after the other. -/
theorem bind {k : α → Except Failure β} (h : Sending parts Sent r)
    (hk : ∀ a, Sent a → Sending parts' Sent' (k a)) : Sending (parts ++ parts') Sent' (r >>= k) := by
  cases h with
  | refused hmem h => exact .refused (List.mem_append_left _ hmem) h
  | @sent a h hparts =>
    have hrest := hk a h
    -- What is refused behind the first parts is refused in the whole.
    show Sending (parts ++ parts') Sent' (k a)
    generalize k a = r' at hrest ⊢
    cases hrest with
    | sent h' hparts' => exact .sent h' (List.forall_mem_append.2 ⟨hparts, hparts'⟩)
    | refused hmem h' => exact .refused (List.mem_append_right _ hmem) h'

end Sending

/-! ### Sending values -/

theorem Decimal.toDouble?_eq_none_iff (d : Decimal) : d.toDouble? = none ↔ d.isSignaling = true := by
  cases d with
  | finite | infinite => simp [toDouble?, isSignaling]
  | nan negative signaling payload => cases signaling <;> simp [toDouble?, isSignaling]

/-- Sending a scalar. -/
theorem Scalar.sending (place : Place) (s : Scalar) :
    Sending [(place, .scalar s)] (fun t => s.SentAs t ∧ t.isOnWire = true) s.toWire := by
  -- What is plain already is sent as it is.
  have hsame (h : s.isOnWire = true) :
      Sending [(place, .scalar s)] (fun t => s.SentAs t ∧ t.isOnWire = true) (.ok s) := by
    refine .sent ⟨.same h, h⟩ (List.forall_mem_singleton.2 ?_)
    rintro e (_ | _) <;> cases h
  cases s with
  | datetime t =>
    rw [toWire]
    cases ht : t.timestamp? with
    | none => exact .refused List.mem_cons_self (.time (t.timestamp?_eq_none_iff.1 ht))
    | some s =>
      refine .sent ⟨.time ht, rfl⟩ (List.forall_mem_singleton.2 ?_)
      rintro e ⟨hout⟩
      rw [t.timestamp?_eq_none_iff.2 hout] at ht
      cases ht
  | date d =>
    refine .sent ⟨.day d, rfl⟩ (List.forall_mem_singleton.2 ?_)
    rintro e ⟨⟩
  -- Only a signaling number has no double.
  | decimal d =>
    rw [toWire]
    cases hd : d.toDouble? with
    | none => exact .refused List.mem_cons_self (.number (d.toDouble?_eq_none_iff.1 hd))
    | some x =>
      refine .sent ⟨.number hd, rfl⟩ (List.forall_mem_singleton.2 ?_)
      rintro e (_ | hsignaling)
      rw [d.toDouble?_eq_none_iff.2 hsignaling] at hd
      cases hd
  | null | bool | int | float | str | bytes => exact hsame rfl

/-- Whether all of some parts stay as they are when they are sent. -/
def AllOnWire (parts : List (Place × Value)) : Prop := ∀ q ∈ parts, q.2.isOnWire = true

mutual

/-- **Sending a value.** -/
theorem Value.sending : ∀ v : Value, (∀ q ∈ v.parts .elsewhere, q.2.isData = true) →
    Sending (v.parts .elsewhere) (fun w => v.SentAs w ∧ AllOnWire (w.parts .elsewhere)) v.toWire
  | .scalar s, _ => by
    rw [Value.toWire, Value.parts]
    refine (s.sending .elsewhere).map fun t ht => ⟨.scalar ht.1, ?_⟩
    rw [Value.parts]
    exact List.forall_mem_singleton.2 ht.2
  | .list items, hdata => by
    rw [Value.parts, List.forall_mem_cons] at hdata
    rw [Value.toWire, Value.parts]
    -- A list itself is never refused, but its items may be.
    refine .whole (by rintro e ⟨⟩) ((Value.sending_items items hdata.2).map fun sent hsent => ?_)
    refine ⟨.list hsent.1, ?_⟩
    rw [Value.parts]
    exact List.forall_mem_cons.2 ⟨rfl, hsent.2⟩
  | .tuple items, hdata => by
    rw [Value.parts, List.forall_mem_cons] at hdata
    rw [Value.toWire, Value.parts]
    refine .whole (by rintro e ⟨⟩) ((Value.sending_items items hdata.2).map fun sent hsent => ?_)
    refine ⟨.tuple hsent.1, ?_⟩
    rw [Value.parts]
    exact List.forall_mem_cons.2 ⟨rfl, hsent.2⟩
  | .object fields, hdata => by
    rw [Value.parts, List.forall_mem_cons] at hdata
    rw [Value.toWire, Value.parts]
    refine .whole (by rintro e ⟨⟩) ((Value.sending_fields fields hdata.2).map fun sent hsent => ?_)
    refine ⟨.object hsent.1 hsent.2.1, ?_⟩
    rw [Value.parts]
    exact List.forall_mem_cons.2 ⟨rfl, hsent.2.2⟩
  | .filter f, hdata => by
    rw [Value.parts, List.forall_mem_cons] at hdata
    -- A filter is no data.
    cases hdata.1

theorem Value.sending_items : ∀ items : List Value,
    (∀ q ∈ Value.partsOfItems items, q.2.isData = true) →
    Sending (Value.partsOfItems items)
      (fun sent => List.Forall₂ Value.SentAs items sent ∧ AllOnWire (Value.partsOfItems sent))
      (Value.toWireItems items)
  | [], _ => by
    rw [Value.partsOfItems, Value.toWireItems]
    refine .nothing ⟨.nil, ?_⟩
    rw [Value.partsOfItems]
    exact List.forall_mem_nil _
  | v :: r, hdata => by
    rw [Value.partsOfItems, List.forall_mem_append] at hdata
    rw [Value.partsOfItems, Value.toWireItems]
    refine (Value.sending v hdata.1).bind fun w hw => ?_
    refine (Value.sending_items r hdata.2).map fun sent hsent => ?_
    refine ⟨.cons hw.1 hsent.1, ?_⟩
    rw [Value.partsOfItems]
    exact List.forall_mem_append.2 ⟨hw.2, hsent.2⟩

theorem Value.sending_fields : ∀ fields : Fields,
    (∀ q ∈ Value.partsOfFields fields, q.2.isData = true) →
    Sending (Value.partsOfFields fields)
      (fun sent => fields.keys = Entries.keys sent
        ∧ List.Forall₂ Value.SentAs (fields.map Prod.snd) (sent.map Prod.snd)
        ∧ AllOnWire (Value.partsOfFields sent))
      (Value.toWireFields fields)
  | [], _ => by
    rw [Value.partsOfFields, Value.toWireFields]
    refine .nothing ⟨rfl, .nil, ?_⟩
    rw [Value.partsOfFields]
    exact List.forall_mem_nil _
  | (k, v) :: r, hdata => by
    rw [Value.partsOfFields, List.forall_mem_append] at hdata
    rw [Value.partsOfFields, Value.toWireFields]
    refine (Value.sending v hdata.1).bind fun w hw => ?_
    refine (Value.sending_fields r hdata.2).map fun sent hsent => ?_
    refine ⟨congrArg (k :: ·) hsent.1, .cons hw.1 hsent.2.1, ?_⟩
    rw [Value.partsOfFields]
    exact List.forall_mem_append.2 ⟨hw.2, hsent.2.2⟩

end

/-! ### Sending again -/

theorem Scalar.toWire_of_onWire {s : Scalar} (h : s.isOnWire = true) : s.toWire = .ok s := by
  cases s with
  | datetime | date | decimal => cases h
  | null | bool | int | float | str | bytes => rfl

mutual

/-- **What holds no part that changes is sent as it is.** -/
theorem Value.toWire_of_onWire : ∀ v : Value, AllOnWire (v.parts .elsewhere) → v.toWire = .ok v
  | .scalar s, h => by
    rw [Value.parts, AllOnWire, List.forall_mem_singleton] at h
    rw [Value.toWire, Scalar.toWire_of_onWire h]
    rfl
  | .list items, h => by
    rw [Value.parts, AllOnWire, List.forall_mem_cons] at h
    rw [Value.toWire, Value.toWireItems_of_onWire items h.2]
    rfl
  | .object fields, h => by
    rw [Value.parts, AllOnWire, List.forall_mem_cons] at h
    rw [Value.toWire, Value.toWireFields_of_onWire fields h.2]
    rfl
  | .tuple items, h | .filter f, h => by
    rw [Value.parts, AllOnWire, List.forall_mem_cons] at h
    cases h.1

theorem Value.toWireItems_of_onWire : ∀ items : List Value, AllOnWire (Value.partsOfItems items) →
    Value.toWireItems items = .ok items
  | [], _ => by rw [Value.toWireItems]
  | v :: r, h => by
    rw [Value.partsOfItems, AllOnWire, List.forall_mem_append] at h
    rw [Value.toWireItems, Value.toWire_of_onWire v h.1, Value.toWireItems_of_onWire r h.2]
    rfl

theorem Value.toWireFields_of_onWire : ∀ fields : Fields,
    AllOnWire (Value.partsOfFields fields) → Value.toWireFields fields = .ok fields
  | [], _ => by rw [Value.toWireFields]
  | (k, v) :: r, h => by
    rw [Value.partsOfFields, AllOnWire, List.forall_mem_append] at h
    rw [Value.toWireFields, Value.toWire_of_onWire v h.1, Value.toWireFields_of_onWire r h.2]
    rfl

end

/-! ### Parameters -/

namespace Parameter

/-- The parts of the value of a parameter. -/
def parts (p : Parameter) : List (Place × Value) := p.value.parts .elsewhere

/-- **What is sent for a parameter**, under the same name. -/
structure SentAs (p q : Parameter) : Prop where
  name : p.name = q.name
  value : p.value.SentAs q.value

theorem sending (p : Parameter) (hdata : ∀ q ∈ p.parts, q.2.isData = true) :
    Sending p.parts (fun q => p.SentAs q ∧ AllOnWire q.parts) p.toWire :=
  (p.value.sending hdata).map fun _ hv => ⟨⟨rfl, hv.1⟩, hv.2⟩

theorem sending_all (ps : List Parameter) (hdata : ∀ p ∈ ps, ∀ q ∈ p.parts, q.2.isData = true) :
    Sending (ps.flatMap parts)
      (fun sent => List.Forall₂ SentAs ps sent ∧ ∀ q ∈ sent, AllOnWire q.parts)
      (allToWire ps) := by
  induction ps with
  | nil => exact .nothing ⟨.nil, List.forall_mem_nil _⟩
  | cons p r ih =>
    obtain ⟨hp, hr⟩ := List.forall_mem_cons.1 hdata
    refine (sending p hp).bind fun q hq => ?_
    refine (ih hr).map fun sent hsent => ?_
    exact ⟨.cons hq.1 hsent.1, List.forall_mem_cons.2 ⟨hq.2, hsent.2⟩⟩

theorem toWire_of_onWire {p : Parameter} (h : AllOnWire p.parts) : p.toWire = .ok p := by
  rw [toWire, p.value.toWire_of_onWire h]
  rfl

theorem allToWire_of_onWire {ps : List Parameter} (h : ∀ p ∈ ps, AllOnWire p.parts) :
    allToWire ps = .ok ps := by
  induction ps with
  | nil => rfl
  | cons p r ih =>
    obtain ⟨hp, hr⟩ := List.forall_mem_cons.1 h
    rw [allToWire, toWire_of_onWire hp, ih hr]
    rfl

/-- **What is sent is plain.**  Parameters whose values are data are sent under their names and in their
order, each value in its shape, and no tuple, time, day or decimal number is left at any depth; so what
is sent is sent again as it is.  They are not sent exactly when there is a time outside of the calendar
or a signaling not-a-number at some depth, and the failure is that of such a part. -/
theorem sent_plain (ps : List Parameter) (hdata : ∀ p ∈ ps, ∀ q ∈ p.parts, q.2.isData = true) :
    (∀ sent, allToWire ps = .ok sent →
      List.Forall₂ SentAs ps sent
        ∧ (∀ p ∈ sent, ∀ q ∈ p.parts, q.2.isOnWire = true)
        ∧ allToWire sent = .ok sent)
    ∧ (∀ e, allToWire ps = .error e → ∃ p ∈ ps, ∃ q ∈ p.parts, q.2.Refused e)
    ∧ ∀ p ∈ ps, ∀ q ∈ p.parts, ∀ e, q.2.Refused e → ∃ e', allToWire ps = .error e' := by
  have hsending := sending_all ps hdata
  generalize allToWire ps = r at hsending
  cases hsending with
  -- All has been sent, so that nothing was refused.
  | @sent sent h hparts =>
    refine ⟨?_, ?_, ?_⟩
    · rintro _ ⟨⟩
      exact ⟨h.1, h.2, allToWire_of_onWire h.2⟩
    · rintro e ⟨⟩
    · intro p hp q hq e he
      exact absurd he (hparts q (List.mem_flatMap.2 ⟨p, hp, hq⟩) e)
  -- One part has been refused, and with it the whole list.
  | @refused q e hq h =>
    obtain ⟨p, hp, hqp⟩ := List.mem_flatMap.1 hq
    refine ⟨?_, ?_, ?_⟩
    · rintro sent ⟨⟩
    · rintro _ ⟨⟩
      exact ⟨p, hp, q, hqp, h⟩
    · intro _ _ _ _ _ _
      exact ⟨e, rfl⟩

/-- A tuple of a time and an object, and the first half hour of the calendar an hour east of UTC. -/
theorem sent_plain_nested :
    let time : DateTime := ⟨⟨2024, 2, 29⟩, 1, 30, 0, 0, some 7200⟩
    let p : Parameter := ⟨"@p0", .tuple [.scalar (.datetime time),
      .object [("rates", .list [.scalar (.decimal (.finite false 25 (-1)))])]]⟩
    let early : Parameter := ⟨"@p1", .object [("from", .tuple [
      .scalar (.datetime ⟨⟨1, 1, 1⟩, 0, 30, 0, 0, some 3600⟩)])]⟩
    (∃ q, allToWire [p] = .ok [q] ∧ q.name = "@p0" ∧ p.value.SentAs q.value
        ∧ allToWire [q] = .ok [q])
      ∧ ∃ e, allToWire [p, early] = .error e := by
  intro time p early
  have hp : p.parts = [(.elsewhere, p.value), (.elsewhere, .scalar (.datetime time)),
      (.elsewhere, .object [("rates", .list [.scalar (.decimal (.finite false 25 (-1)))])]),
      (.elsewhere, .list [.scalar (.decimal (.finite false 25 (-1)))]),
      (.elsewhere, .scalar (.decimal (.finite false 25 (-1))))] := by
    simp [parts, p, Value.parts, Value.partsOfItems, Value.partsOfFields]
  have hearly : early.parts = [(.elsewhere, early.value),
      (.elsewhere, .tuple [.scalar (.datetime ⟨⟨1, 1, 1⟩, 0, 30, 0, 0, some 3600⟩)]),
      (.elsewhere, .scalar (.datetime ⟨⟨1, 1, 1⟩, 0, 30, 0, 0, some 3600⟩))] := by
    simp [parts, early, Value.parts, Value.partsOfItems, Value.partsOfFields]
  have hcalendar : time.InCalendar := ⟨by decide +kernel, by decide +kernel⟩
  -- In UTC the day would lie before the first one.
  have hout : ¬ DateTime.InCalendar ⟨⟨1, 1, 1⟩, 0, 30, 0, 0, some 3600⟩ := by
    rintro ⟨hfirst, -⟩
    exact absurd hfirst (by decide +kernel)
  have hdata : ∀ q ∈ p.parts, q.2.isData = true := by
    rw [hp]
    simp [p, Value.isData]
  have hdata' : ∀ q ∈ early.parts, q.2.isData = true := by
    rw [hearly]
    simp [early, Value.isData]
  constructor
  · obtain ⟨hsent, hfailed, -⟩ := sent_plain [p] (List.forall_mem_singleton.2 hdata)
    cases hr : allToWire [p] with
    | error e =>
      obtain ⟨_, hmem, q, hq, hrefused⟩ := hfailed e hr
      rw [List.mem_singleton.1 hmem, hp] at hq
      simp only [List.mem_cons, List.not_mem_nil, or_false] at hq
      -- None of the five parts is refused.
      rcases hq with rfl | rfl | rfl | rfl | rfl
      · cases hrefused
      · cases hrefused with
        | time h => exact absurd hcalendar h
      · cases hrefused
      · cases hrefused
      · cases hrefused with
        | number h => cases h
    | ok sent =>
      obtain ⟨hforall, -, hagain⟩ := hsent sent hr
      cases hforall with
      | @cons _ q _ _ hq hrest =>
        cases hrest
        exact ⟨q, rfl, hq.name.symm, hq.value, hagain⟩
  · have hboth : ∀ p' ∈ [p, early], ∀ q ∈ p'.parts, q.2.isData = true :=
      List.forall_mem_cons.2 ⟨hdata, List.forall_mem_singleton.2 hdata'⟩
    obtain ⟨-, -, hrefused⟩ := sent_plain [p, early] hboth
    have hmem : (Place.elsewhere, Value.scalar (.datetime ⟨⟨1, 1, 1⟩, 0, 30, 0, 0, some 3600⟩))
        ∈ early.parts := by
      rw [hearly]
      exact List.mem_cons_of_mem _ (List.mem_cons_of_mem _ List.mem_cons_self)
    exact hrefused early (List.mem_cons_of_mem _ List.mem_cons_self) _ hmem _ (.time hout)

end Parameter

end EntityStore
