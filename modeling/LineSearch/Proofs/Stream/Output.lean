import LineSearch.Stream.Sink

/-!
# What a sink keeps

Writing out succeeds exactly if all the bytes fit and nothing keeps them from being pushed out. How
it ends does not matter for what is written: as many bytes as fit are in the sink, also when the
write fails or nothing can be pushed out.
-/

namespace LineSearch.Sink

def Fits (sink : Sink) (bytes : Bytes) : Prop :=
  ∀ capacity, sink.capacity = some capacity → bytes.length ≤ capacity - sink.written.length

def kept (sink : Sink) (bytes : Bytes) : Bytes :=
  match sink.capacity with
  | none => bytes
  | some capacity => bytes.take (capacity - sink.written.length)

variable (sink : Sink) (bytes : Bytes)

theorem written_writeOut : (sink.writeOut bytes).2.written = sink.written ++ sink.kept bytes := by
  unfold writeOut write kept
  cases sink.capacity with
  | none => rfl
  | some capacity => rfl

theorem kept_isPrefix : sink.kept bytes <+: bytes := by
  unfold kept
  split
  · exact List.prefix_rfl
  · exact List.take_prefix _ bytes

theorem writeOut_of_fits {sink : Sink} {bytes : Bytes} (h : sink.Fits bytes) :
    (sink.writeOut bytes).1 = sink.flush := by
  unfold writeOut write
  cases hcapacity : sink.capacity with
  | none => rfl
  | some capacity =>
      dsimp only
      rw [if_pos (h capacity hcapacity)]
      rfl

theorem writeOut_of_not_fits {sink : Sink} {bytes : Bytes} (h : ¬ sink.Fits bytes) :
    (sink.writeOut bytes).1 = .error .full := by
  unfold writeOut write
  cases hcapacity : sink.capacity with
  | none => exact absurd (fun capacity hsome => by rw [hcapacity] at hsome; contradiction) h
  | some capacity =>
      have hlong : ¬ bytes.length ≤ capacity - sink.written.length := by
        intro hshort
        apply h
        intro other hother
        rw [hcapacity] at hother
        exact Option.some.inj hother ▸ hshort
      dsimp only
      rw [if_neg hlong]
      rfl

theorem flush_eq_ok_iff : sink.flush = .ok () ↔ sink.flushFault = none := by
  unfold flush
  cases sink.flushFault with
  | none => exact iff_of_true rfl rfl
  | some reason => exact iff_of_false nofun nofun

theorem writeOut_eq_ok_iff :
    (sink.writeOut bytes).1 = .ok () ↔ sink.Fits bytes ∧ sink.flushFault = none := by
  by_cases hfits : sink.Fits bytes
  · rw [writeOut_of_fits hfits, flush_eq_ok_iff]
    exact (and_iff_right hfits).symm
  · rw [writeOut_of_not_fits hfits]
    exact iff_of_false nofun fun h => hfits h.1

end LineSearch.Sink
