import RunMonitor.Client.Basic

namespace RunMonitor.Client

/-- Brings one reply after the other, and keeps what was asked. The connection fails where there is
no reply. -/
structure Rehearsal where
  replies : List (Option Reply)
  asked : List Request := []

instance : Transport Rehearsal where
  carry request rehearsal :=
    let asked := rehearsal.asked ++ [request]
    match rehearsal.replies with
    | some reply :: rest => (.ok reply, ⟨rest, asked⟩)
    | none :: rest => (.error connectionLost, ⟨rest, asked⟩)
    | [] => (.error connectionLost, ⟨[], asked⟩)

end RunMonitor.Client
