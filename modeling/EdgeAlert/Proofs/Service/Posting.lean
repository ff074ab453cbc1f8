import EdgeAlert.Service

/-!
# Posting alerts

Alerts that are posted, one after the other, to a channel that somebody takes alerts from are all in it
afterwards, in order and behind those that were waiting. Posting leaves the checker alone.
-/

namespace EdgeAlert.Service

theorem foldl_post_checker (now : Timestamp) (alerts : List Alert) (service : Noted Service) :
    (alerts.foldl (post now) service).value.checker = service.value.checker := by
  induction alerts generalizing service with
  | nil => rfl
  | cons alert rest ih => exact ih (post now service alert)

theorem post_channel (now : Timestamp) {service : Noted Service} (alert : Alert)
    (attended : service.value.channel.closed = false) :
    ∃ stamped : StampedAlert, stamped.toAlert = alert ∧ (post now service alert).value.channel =
      { pending := service.value.channel.pending ++ [stamped], closed := false } := by
  let id := (service.value.ids.next now.milliseconds).1
  refine ⟨{ alert with id := String.ofList (Decimal.digits id), timestamp := now }, rfl, ?_⟩
  unfold post Channel.post Channel.post?
  rw [attended]
  rfl

theorem foldl_post_channel (now : Timestamp) (alerts : List Alert) {service : Noted Service}
    (attended : service.value.channel.closed = false) :
    ∃ stamped : List StampedAlert, stamped.map StampedAlert.toAlert = alerts ∧
      (alerts.foldl (post now) service).value.channel =
        { pending := service.value.channel.pending ++ stamped, closed := false } := by
  induction alerts generalizing service with
  | nil =>
    refine ⟨[], rfl, ?_⟩
    rw [List.append_nil, ← attended]
    rfl
  | cons alert rest ih =>
    obtain ⟨first, same, posted⟩ := post_channel now alert attended
    obtain ⟨others, same', posted'⟩ := ih (congrArg Channel.closed posted)
    refine ⟨first :: others, by rw [List.map_cons, same, same'], ?_⟩
    rw [List.foldl_cons, posted', posted, List.append_assoc, List.singleton_append]

theorem foldl_post_length_le (now : Timestamp) (alerts : List Alert) (service : Noted Service) :
    (alerts.foldl (post now) service).value.channel.pending.length ≤
      service.value.channel.pending.length + alerts.length := by
  induction alerts generalizing service with
  | nil => exact Nat.le_refl _
  | cons alert rest ih =>
    have first : (post now service alert).value.channel.pending.length ≤
        service.value.channel.pending.length + 1 := by
      unfold post Channel.post Channel.post?
      cases service.value.channel.closed with
      | true => exact Nat.le_add_right _ _
      | false => exact Nat.le_of_eq List.length_append
    have others := ih (post now service alert)
    rw [List.foldl_cons, List.length_cons]
    omega

end EdgeAlert.Service
