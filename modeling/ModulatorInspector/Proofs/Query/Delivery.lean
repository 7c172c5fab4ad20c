import ModulatorInspector.Proofs.Query.Conversation
import ModulatorInspector.Proofs.Success
import ModulatorInspector.Query.Output

namespace ModulatorInspector.Query

open Device (Act Driver Exchange Failure Run)

section Delivering

variable {σ ε : Type}

inductive Writing where
  | offer (bytes : List UInt8) (answer : Offer)
  | flush (result : Except OutputFault Unit)

namespace Writing

@[simp] def accepted : Writing → List UInt8
  | .offer bytes (.took count) => bytes.take count
  | _ => []

-- What a call settles. An interruption settles nothing, nor does an offer of which a part was taken;
-- one of which nothing was taken is at fault.
@[simp] def settled? : Writing → Option (Except OutputFault Unit)
  | .offer _ (.failed fault) => some (.error fault)
  | .offer _ (.took 0) => some (.error .nothingTaken)
  | .flush result => some result
  | _ => none

theorem settled_ok {writing : Writing} (settled : writing.settled? = some (.ok ())) :
    writing = .flush (.ok ()) := by
  cases writing with
  | flush result => exact congrArg flush (Option.some.inj settled)
  | offer bytes answer =>
    cases answer with
    | took count => cases count <;> cases settled
    | interrupted => cases settled
    | failed fault => cases settled

end Writing

def acceptedIn (writings : List Writing) : List UInt8 := writings.flatMap Writing.accepted

@[simp] theorem acceptedIn_nil : acceptedIn [] = [] := rfl

@[simp] theorem acceptedIn_cons (first : Writing) (rest : List Writing) :
    acceptedIn (first :: rest) = first.accepted ++ acceptedIn rest := rfl

-- The calls that hand a text over, oldest first, and what they come to.
inductive Delivery : List UInt8 → List Writing → Except OutputFault Unit → Prop where
  | flushed (result) : Delivery [] [.flush result] result
  | failed (unfinished : bytes ≠ []) (fault) :
      Delivery bytes [.offer bytes (.failed fault)] (.error fault)
  | refused (unfinished : bytes ≠ []) :
      Delivery bytes [.offer bytes (.took 0)] (.error .nothingTaken)
  | interrupted (unfinished : bytes ≠ []) (again : Delivery bytes writings result) :
      Delivery bytes (.offer bytes .interrupted :: writings) result
  | took (unfinished : bytes ≠ []) (count)
      (rest : Delivery (bytes.drop (count + 1)) writings result) :
      Delivery bytes (.offer bytes (.took (count + 1)) :: writings) result

section Laws

variable {bytes : List UInt8} {writings : List Writing} {result : Except OutputFault Unit}

theorem Delivery.accepted_prefix (delivery : Delivery bytes writings result) :
    acceptedIn writings <+: bytes := by
  induction delivery with
  | flushed | failed | refused => simp
  | interrupted _ _ ih => simpa using ih
  | took _ count _ ih =>
    obtain ⟨left, all⟩ := ih
    exact ⟨left, by simp [all]⟩

theorem Delivery.ne_nil (delivery : Delivery bytes writings result) : writings ≠ [] := by
  cases delivery <;> simp

theorem Delivery.settles_last (delivery : Delivery bytes writings result) :
    writings.Pairwise (fun earlier _ => earlier.settled? = none)
      ∧ writings.getLast?.bind Writing.settled? = some result := by
  induction delivery with
  | flushed | failed | refused => simp
  | interrupted _ again ih | took _ _ again ih =>
    obtain ⟨earlier, last⟩ := ih
    obtain ⟨next, later, rfl⟩ := List.exists_cons_of_ne_nil again.ne_nil
    exact ⟨by simpa using earlier, by simpa only [List.getLast?_cons_cons] using last⟩

theorem Delivery.flush_complete (delivery : Delivery bytes writings result)
    (flushed : .flush flushResult ∈ writings) : acceptedIn writings = bytes := by
  induction delivery with
  | flushed => simp
  | failed | refused => simp at flushed
  | interrupted _ _ ih => simpa using ih (by simpa using flushed)
  | took _ count _ ih => simp [ih (by simpa using flushed)]

theorem Delivery.ok_iff (delivery : Delivery bytes writings result) :
    result = .ok () ↔
      acceptedIn writings = bytes ∧ writings.getLast? = some (.flush (.ok ())) := by
  have last := delivery.settles_last.2
  constructor
  · rintro rfl
    obtain ⟨writing, isLast, settled⟩ := Option.bind_eq_some_iff.mp last
    cases Writing.settled_ok settled
    exact ⟨delivery.flush_complete (List.mem_of_getLast? isLast), isLast⟩
  · rintro ⟨-, flushed⟩
    rw [flushed] at last
    exact (Option.some.inj last).symm

end Laws

def Stream.handOver (stream : Stream σ) (bytes : List UInt8) (s : σ) :
    Except OutputFault Unit × σ :=
  match stream.writeAll bytes s with
  | (.error fault, s) => (.error fault, s)
  | (.ok (), s) => stream.flush s

section Steps

variable {stream : Stream σ} {bytes : List UInt8} {s next : σ}

-- The answer decides; that it was given to this offer matters to termination alone.
theorem writeAll_of_ne_nil (unfinished : bytes ≠ []) :
    stream.writeAll bytes s = match stream.offer bytes s with
      | (.failed fault, next) => (.error fault, next)
      | (.interrupted, next) => stream.writeAll bytes next
      | (.took 0, next) => (.error .nothingTaken, next)
      | (.took (count + 1), next) => stream.writeAll (bytes.drop (count + 1)) next := by
  rw [Stream.writeAll, if_neg unfinished]
  split <;> rename_i answered <;> rw [answered]

theorem handOver_nil : stream.handOver [] s = stream.flush s := by
  rw [Stream.handOver, Stream.writeAll, if_pos rfl]

theorem handOver_failed {fault : OutputFault} (unfinished : bytes ≠ [])
    (answered : stream.offer bytes s = (.failed fault, next)) :
    stream.handOver bytes s = (.error fault, next) := by
  rw [Stream.handOver, writeAll_of_ne_nil unfinished, answered]

theorem handOver_refused (unfinished : bytes ≠ [])
    (answered : stream.offer bytes s = (.took 0, next)) :
    stream.handOver bytes s = (.error .nothingTaken, next) := by
  rw [Stream.handOver, writeAll_of_ne_nil unfinished, answered]

theorem handOver_interrupted (unfinished : bytes ≠ [])
    (answered : stream.offer bytes s = (.interrupted, next)) :
    stream.handOver bytes s = stream.handOver bytes next := by
  rw [Stream.handOver, writeAll_of_ne_nil unfinished, answered, Stream.handOver]

theorem handOver_took {count : Nat} (unfinished : bytes ≠ [])
    (answered : stream.offer bytes s = (.took (count + 1), next)) :
    stream.handOver bytes s = stream.handOver (bytes.drop (count + 1)) next := by
  rw [Stream.handOver, writeAll_of_ne_nil unfinished, answered, Stream.handOver]

end Steps

def Stream.recorded (stream : Stream σ) (keep : Writing → ε) : Stream (σ × List ε) where
  offer bytes w :=
    let (answer, s) := stream.offer bytes w.1
    (answer, (s, w.2 ++ [keep (.offer bytes answer)]))
  flush w :=
    let (result, s) := stream.flush w.1
    (result, (s, w.2 ++ [keep (.flush result)]))
  interruptions_end bytes := by
    refine Subrelation.wf ?_ (InvImage.wf Prod.fst (stream.interruptions_end bytes))
    intro later earlier interrupted
    exact Prod.ext (congrArg (fun run => run.1) interrupted)
      (congrArg (fun run => run.2.1) interrupted)

theorem recorded_offer (stream : Stream σ) (keep : Writing → ε) {bytes : List UInt8} {s next : σ}
    {answer : Offer} (answered : stream.offer bytes s = (answer, next)) (past : List ε) :
    (stream.recorded keep).offer bytes (s, past)
      = (answer, (next, past ++ [keep (.offer bytes answer)])) := by
  simp only [Stream.recorded, answered]

-- The recorded stream goes step by step with the plain one, by induction on the plain one's writing.
theorem handOver_recorded (stream : Stream σ) (keep : Writing → ε) (bytes : List UInt8) (s : σ)
    (past : List ε) :
    ∃ writings,
      (stream.recorded keep).handOver bytes (s, past)
          = ((stream.handOver bytes s).1, ((stream.handOver bytes s).2, past ++ writings.map keep))
        ∧ Delivery bytes writings (stream.handOver bytes s).1 := by
  induction bytes, s using Stream.writeAll.induct stream generalizing past with
  | case1 s =>
    rw [handOver_nil, handOver_nil]
    exact ⟨[.flush (stream.flush s).1], rfl, .flushed _⟩
  | case2 bytes s unfinished fault next answered =>
    rw [handOver_failed unfinished answered,
      handOver_failed unfinished (recorded_offer stream keep answered past)]
    exact ⟨[_], rfl, .failed unfinished fault⟩
  | case3 bytes s unfinished next answered ih =>
    rw [handOver_interrupted unfinished answered,
      handOver_interrupted unfinished (recorded_offer stream keep answered past)]
    obtain ⟨writings, run, delivery⟩ := ih (past ++ [keep (.offer bytes .interrupted)])
    exact ⟨.offer bytes .interrupted :: writings, by simp [run], .interrupted unfinished delivery⟩
  | case4 bytes s unfinished next answered =>
    rw [handOver_refused unfinished answered,
      handOver_refused unfinished (recorded_offer stream keep answered past)]
    exact ⟨[_], rfl, .refused unfinished⟩
  | case5 bytes s unfinished count next answered ih =>
    rw [handOver_took unfinished answered,
      handOver_took unfinished (recorded_offer stream keep answered past)]
    obtain ⟨writings, run, delivery⟩ := ih (past ++ [keep (.offer bytes (.took (count + 1)))])
    exact ⟨.offer bytes (.took (count + 1)) :: writings, by simp [run],
      .took unfinished count delivery⟩

theorem deliver_recorded (stream : Stream σ) (keep : Writing → ε) (text : String) (s : σ)
    (past : List ε) :
    ∃ writings,
      (stream.recorded keep).deliver text (s, past)
          = ((stream.deliver text s).1, ((stream.deliver text s).2, past ++ writings.map keep))
        ∧ Delivery (Utf8.bytes text) writings (stream.deliver text s).1 :=
  handOver_recorded stream keep (Utf8.bytes text) s past

end Delivering

section Publishing

variable {σ η : Type}

inductive Moment (η : Type) where
  | driver (call : Exchange η)
  | output (writing : Writing)

theorem publishIn_error {d : Driver σ η} {c : Configuration} {s : σ} {failure : Failure}
    (failed : (answer d c s).answer = .error failure) (stream : Stream σ) :
    publishIn d stream c s
      = ⟨.error (.device failure), (answer d c s).state, (answer d c s).events⟩ := by
  rw [publishIn, Act.bind_apply, failed]
  simp only [Act.pure_apply, List.append_nil]

theorem publishIn_ok {d : Driver σ η} {c : Configuration} {s : σ} {text : String}
    (answered : (answer d c s).answer = .ok text) (stream : Stream σ) :
    publishIn d stream c s
      = ⟨(stream.deliver text (answer d c s).state).1.mapError .output,
          (stream.deliver text (answer d c s).state).2, (answer d c s).events⟩ := by
  rw [publishIn, Act.bind_apply, answered]
  simp only [Act.bind_apply, Act.pure_apply, Act.quiet, List.append_nil]

-- A driver that fails leaves the output unheard. Otherwise the output hears of the driver's text
-- only, after the driver's last call, and the result is what it made of that text.
theorem publishIn_atomic (d : Driver σ η) (stream : Stream σ) (c : Configuration) (s : σ)
    (past : List (Moment η)) :
    ∃ calls writings,
      publishIn (d.recorded .driver) (stream.recorded .output) c (s, past)
          = ⟨(publishIn d stream c s).answer,
              ((publishIn d stream c s).state,
                past ++ (calls.map Moment.driver ++ writings.map Moment.output)),
              (publishIn d stream c s).events⟩
        ∧ Conversation c calls (answer d c s).answer
        ∧ (∀ call ∈ calls, ∀ failure, call.failure? = some failure →
            writings = [] ∧ (publishIn d stream c s).answer = .error (.device failure))
        ∧ ((∀ call ∈ calls, call.failure? = none) →
            ∃ text, (answer d c s).answer = .ok text
              ∧ acceptedIn writings <+: Utf8.bytes text
              ∧ ((publishIn d stream c s).answer = .ok () ↔
                  acceptedIn writings = Utf8.bytes text
                    ∧ writings.getLast? = some (.flush (.ok ())))
              ∧ ∀ fault, (publishIn d stream c s).answer = .error fault →
                  ∃ cause, fault = .output cause
                    ∧ writings.getLast?.bind Writing.settled? = some (.error cause)) := by
  obtain ⟨_, asked, calls, rfl, conversation⟩ := answer_records d Moment.driver c s past
  have orderly := conversation.orderly
  have same := congrArg Run.answer asked
  cases outcome : (answer d c s).answer with
  | error failure =>
    rw [outcome] at orderly conversation same
    rw [publishIn_error outcome, publishIn_error same, asked]
    refine ⟨calls, [], by simp, conversation, ?_, ?_⟩
    · intro call member other failed
      cases orderly.failures call member other failed
      exact ⟨rfl, rfl⟩
    · intro unfailing
      obtain ⟨call, member, failed⟩ := orderly.causes failure rfl
      cases (unfailing call member).symm.trans failed
  | ok text =>
    rw [outcome] at orderly conversation same
    obtain ⟨writings, written, delivery⟩ := deliver_recorded stream Moment.output text
      (answer d c s).state (past ++ calls.map Moment.driver)
    rw [publishIn_ok outcome, publishIn_ok same, asked, written]
    refine ⟨calls, writings, by rw [List.append_assoc], conversation, ?_, ?_⟩
    · intro call member failure failed
      cases orderly.failures call member failure failed
    · intro _
      refine ⟨text, rfl, delivery.accepted_prefix, ?_, ?_⟩
      · rw [← delivery.ok_iff]
        exact mapError_eq_ok_iff
      · intro fault failed
        have last := delivery.settles_last.2
        cases result : (stream.deliver text (answer d c s).state).1 with
        | ok => rw [result] at failed; cases failed
        | error cause =>
          rw [result] at failed last
          cases failed
          exact ⟨cause, rfl, last⟩

end Publishing

end ModulatorInspector.Query
