import RunMonitor.View.Lookup

namespace RunMonitor.View

def seek (key : String) (missed : View ByteArray) : View ByteArray :=
  .call (.inl (.get key)) fun
    | .ok (some hit) => .done (.ok hit)
    | .ok none => missed
    | .error error => .done (.error error)

def keep (ttl : Nat) (key : String) (value : ByteArray) : View ByteArray :=
  .call (.inl (.set key value (some ttl))) fun reply => .done (reply.map fun _ => value)

theorem set_eq_keep (ttl : Nat) (key : String) (value : ByteArray) :
    (do Store.set key value (some ttl); return value) = keep ttl key value := by
  refine congrArg (Procedure.call _) (funext fun reply => ?_)
  cases reply <;> rfl

theorem lookUp_eq (ttl : Nat) (key : String) (fetch : View ByteArray) :
    lookUp ttl key fetch = seek key (seek key (fetch >>= keep ttl key)) := by
  refine congrArg (Procedure.call _) (funext fun first => ?_)
  rcases first with error | (_ | hit)
  · rfl
  · refine congrArg (Procedure.call _) (funext fun second => ?_)
    rcases second with error | (_ | hit)
    · rfl
    · exact congrArg (fetch >>= ·) (funext fun value => set_eq_keep ttl key value)
    · rfl
  · rfl

def fetching {β : Type} (inquiry : Inquiry β) (f : Except Error β → Except Error ByteArray) :
    View ByteArray :=
  .call (.inr inquiry) fun reply => .done (f reply)

theorem fetching_jobs :
    (do return (RunIndex.build (← inquire .jobs)).encode) =
      fetching .jobs fun reply => reply.map fun jobs => (RunIndex.build jobs).encode := by
  refine congrArg (Procedure.call _) (funext fun reply => ?_)
  cases reply <;> rfl

theorem fetching_object (ns name : String) :
    (do match ← inquire (.object .cronJob ns name) with
        | some cronJob => return Resource.encode cronJob
        | none => .fail (absent .cronJob ns name)) =
      fetching (.object .cronJob ns name) fun
        | .ok (some cronJob) => .ok (Resource.encode cronJob)
        | .ok none => .error (absent .cronJob ns name)
        | .error error => .error error := by
  refine congrArg (Procedure.call _) (funext fun reply => ?_)
  cases reply with
  | error error => rfl
  | ok found => cases found <;> rfl

end RunMonitor.View
