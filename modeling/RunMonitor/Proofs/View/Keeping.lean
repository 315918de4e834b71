import RunMonitor.Proofs.Cache.Key
import RunMonitor.Proofs.Procedure
import RunMonitor.View.Basic

namespace RunMonitor

inductive Answer where
  | object (kind : Kind) (ns name : String) (reply : Except Error (Option kind.Object))
  | jobs (reply : Except Error (List Job))

def Answer.entry? : Answer → Option (String × ByteArray)
  | .object .cronJob ns name (.ok (some cronJob)) =>
      some (Key.definition ns name, Resource.encode cronJob)
  | .jobs (.ok listing) => some (Key.runIndex, (RunIndex.build listing).encode)
  | _ => none

def Answer.SlashFree : Answer → Prop
  | .object _ ns _ _ => '/' ∉ ns.toList
  | .jobs _ => True

namespace Answer

variable {answer : Answer} {key : String} {value : ByteArray}

theorem entry?_cases (h : answer.entry? = some (key, value)) :
    (∃ (ns name : String) (cronJob : CronJob),
      answer = .object .cronJob ns name (.ok (some cronJob)) ∧
        key = Key.definition ns name ∧ value = Resource.encode cronJob) ∨
    ∃ listing, answer = .jobs (.ok listing) ∧
      key = Key.runIndex ∧ value = (RunIndex.build listing).encode := by
  unfold entry? at h
  split at h
  case h_1 ns name cronJob =>
    obtain ⟨hkey, hvalue⟩ := Prod.mk.inj (Option.some.inj h)
    exact .inl ⟨ns, name, cronJob, rfl, hkey.symm, hvalue.symm⟩
  case h_2 listing =>
    obtain ⟨hkey, hvalue⟩ := Prod.mk.inj (Option.some.inj h)
    exact .inr ⟨listing, rfl, hkey.symm, hvalue.symm⟩
  case h_3 => cases h

theorem of_entry_definition {ns name : String} (hns : '/' ∉ ns.toList) (hfree : answer.SlashFree)
    (h : answer.entry? = some (Key.definition ns name, value)) :
    ∃ cronJob : CronJob, answer = .object .cronJob ns name (.ok (some cronJob)) ∧
      value = Resource.encode cronJob := by
  rcases entry?_cases h with ⟨other, name', cronJob, rfl, hkey, hvalue⟩ | ⟨_, _, hkey, _⟩
  · obtain ⟨rfl, rfl⟩ := (Key.definition_inj hns hfree).mp hkey
    exact ⟨cronJob, rfl, hvalue⟩
  · exact absurd hkey (Key.definition_ne_runIndex ns name)

theorem of_entry_runIndex (h : answer.entry? = some (Key.runIndex, value)) :
    ∃ listing, answer = .jobs (.ok listing) ∧ value = (RunIndex.build listing).encode := by
  rcases entry?_cases h with ⟨ns, name, _, _, hkey, _⟩ | ⟨listing, rfl, _, hvalue⟩
  · exact absurd hkey.symm (Key.definition_ne_runIndex ns name)
  · exact ⟨listing, rfl, hvalue⟩

end Answer

namespace Inquiry

variable {β : Type}

def answer? : Inquiry β → Except Error β → Option Answer
  | .object kind ns name, reply => some (.object kind ns name reply)
  | .jobs, reply => some (.jobs reply)
  | .time, _ => none

def SlashFree : Inquiry β → Prop
  | .object _ ns _ => '/' ∉ ns.toList
  | .jobs | .time => True

theorem SlashFree.answer {inquiry : Inquiry β} (h : inquiry.SlashFree) {reply : Except Error β}
    {answer : Answer} (hanswer : inquiry.answer? reply = some answer) : answer.SlashFree := by
  cases inquiry with
  | object kind ns name =>
      cases hanswer
      exact h
  | jobs =>
      cases hanswer
      trivial
  | time => cases hanswer

end Inquiry

def StoreCall.Keeps {β : Type} (ttl : Nat) (answer : Option Answer) : StoreCall β → Prop
  | .get _ => True
  | .set key value ttl' => ttl' = some ttl ∧ answer.bind Answer.entry? = some (key, value)
  | .update _ _ | .delete _ | .purge => False

namespace View

def keeping (ttl : Nat) : Procedure.Rules (fun β => StoreCall β ⊕ Inquiry β) (Option Answer) where
  Allows
    | .inl call, answer => call.Keeps ttl answer
    | .inr inquiry, _ => inquiry.SlashFree
  after
    | .inl _, _, answer => answer
    | .inr inquiry, reply, answer => (inquiry.answer? reply).or answer

def Keeps {α : Type} (ttl : Nat) (answer : Option Answer) (view : View α) : Prop :=
  view.Obeys (keeping ttl) (fun _ _ => True) answer

variable {α β : Type} {ttl : Nat} {answer : Option Answer}

theorem Keeps.andThen {view : View α} {f : α → View β} (h : view.Keeps ttl answer)
    (hf : ∀ value answer, (f value).Keeps ttl answer) : (view >>= f).Keeps ttl answer :=
  Procedure.Obeys.andThen h (fun value answer _ => hf value answer) fun _ _ _ => trivial

theorem keeps_get {key : String} : Keeps ttl answer (liftM (Store.get key)) :=
  ⟨trivial, fun _ => trivial⟩

theorem keeps_lookUp {key : String} {fetch : View ByteArray}
    (hfetch : ∀ answer, fetch.Obeys (keeping ttl)
      (fun result answer => ∀ value, result = .ok value →
        answer.bind Answer.entry? = some (key, value)) answer) :
    (lookUp ttl key fetch).Keeps ttl answer := by
  refine keeps_get.andThen fun found answer => ?_
  cases found with
  | some hit => trivial
  | none =>
      refine keeps_get.andThen fun found answer => ?_
      cases found with
      | some hit => trivial
      | none =>
          refine (hfetch answer).andThen ?_ fun _ _ _ => trivial
          intro value answer hentry
          refine ⟨⟨rfl, hentry value rfl⟩, fun reply => ?_⟩
          cases reply <;> trivial

theorem keeps_runIndex : (runIndex ttl).Keeps ttl answer := by
  have hlookUp : (lookUp ttl Key.runIndex do
      return (RunIndex.build (← inquire .jobs)).encode).Keeps ttl answer := by
    refine keeps_lookUp fun answer => ⟨trivial, fun reply => ?_⟩
    cases reply with
    | error error =>
        intro value hvalue
        cases hvalue
    | ok jobs =>
        intro value hvalue
        cases hvalue
        rfl
  refine hlookUp.attempt.andThen ?_ fun _ _ _ => trivial
  intro found answer _
  cases found <;> trivial

theorem keeps_definition {ns : String} (hns : '/' ∉ ns.toList) (name : String) :
    (definition ttl ns name).Keeps ttl answer := by
  refine Keeps.andThen (keeps_lookUp fun answer => ⟨hns, fun reply => ?_⟩) fun bytes answer => ?_
  · cases reply with
    | error error =>
        intro value hvalue
        cases hvalue
    | ok found =>
        cases found with
        | none =>
            intro value hvalue
            cases hvalue
        | some cronJob =>
            intro value hvalue
            have hencode : Resource.encode cronJob = value := Except.ok.inj hvalue
            exact congrArg (fun bytes => some (Key.definition ns name, bytes)) hencode
  · split <;> trivial

def Reads (ttl : Nat) (answer : Option Answer) (access : Access α) : Prop :=
  access.Obeys ((keeping ttl).comap Sum.inl) (fun _ _ => True) answer

theorem Reads.keeps {access : Access α} (h : Reads ttl answer access) :
    Keeps ttl answer (liftM access) :=
  Procedure.Obeys.mapCalls h

theorem Reads.map {access : Access α} (h : Reads ttl answer access) (f : α → β) :
    Reads ttl answer (do return f (← access)) :=
  Procedure.Obeys.andThen h (fun _ _ _ => trivial) fun _ _ _ => trivial

theorem reads_forEach {items : List β} {action : β → Access α}
    (h : ∀ item answer, Reads ttl answer (action item)) :
    Reads ttl answer (Procedure.forEach items action) :=
  Procedure.obeys_forEach trivial fun item _ answer _ => h item answer

theorem reads_collection {K : Type} [Resource K] (key : String) :
    Reads ttl answer (Collection.read (K := K) key) := by
  have hget : Reads ttl answer (Store.get key) := ⟨trivial, fun _ => trivial⟩
  exact hget.map _

theorem reads_cronJob (now : Instant) (cronJob : CronJob) (jobs : List Job) :
    Reads ttl answer (CronJobSummary.read now cronJob jobs) := by
  refine Reads.map (reads_forEach fun job answer => ?_) _
  exact ((reads_collection _).map _).map _

theorem keeps_time {f : Instant → View α} (h : ∀ now answer, (f now).Keeps ttl answer) :
    Keeps ttl answer (inquire .time >>= f) := by
  have htime : Keeps ttl answer (inquire .time) := ⟨trivial, fun _ => trivial⟩
  exact htime.andThen h

theorem keeps_cronJobs : (cronJobs ttl).Keeps ttl answer := by
  refine (reads_collection Key.cronJobs).keeps.andThen fun cronJobs answer => ?_
  refine keeps_runIndex.andThen fun index answer => keeps_time fun now answer => ?_
  exact (reads_forEach fun cronJob answer => reads_cronJob ..).keeps.andThen fun _ _ => trivial

theorem keeps_cronJob {ns : String} (hns : '/' ∉ ns.toList) (name : String) :
    (cronJob ttl ns name).Keeps ttl answer := by
  refine (keeps_definition hns name).andThen fun cronJob answer => ?_
  refine keeps_runIndex.andThen fun index answer => keeps_time fun now answer => ?_
  exact (reads_cronJob ..).keeps

theorem keeps_pods {ns : String} (hns : '/' ∉ ns.toList) (name : String) :
    (pods ttl ns name).Keeps ttl answer :=
  (keeps_cronJob hns name).andThen fun _ _ => trivial

end View
end RunMonitor
