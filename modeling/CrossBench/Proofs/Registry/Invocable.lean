import CrossBench.Build.Gate

/-!
# Every runner has a command

A runner whose command is empty would start nothing.  No registry of a run has
one: an empty command in the settings turns its runtime off
(`Registry.Invocable.ofCommands`), and the build gate binds the native tag to the
path of a program or to a reason (`Registry.Invocable.apply`).
-/

namespace CrossBench

/-- Every command that the registry answers with starts something. -/
def Registry.Invocable (r : Registry) : Prop :=
  ∀ (tag : Tag) (command : Command), r.lookup tag = .available command → command ≠ []

namespace Registry.Invocable

theorem empty : Registry.empty.Invocable := by
  intro tag command found
  simp [lookup] at found

/-- A runner that is not the empty command may be bound to any tag. -/
theorem bind {r : Registry} (h : r.Invocable) (tag : Tag) {runner : Runner}
    (hrunner : runner ≠ .available []) : (r.bind tag runner).Invocable := by
  intro tag' command found
  rw [lookup, get?_bind] at found
  by_cases same : tag = tag'
  · rw [if_pos same] at found
    cases runner with
    | available other =>
        cases found
        exact fun empty => hrunner (empty ▸ rfl)
    | unavailable reason => cases found
  · rw [if_neg same] at found
    exact h tag' command found

/-- An empty command becomes a reason, so that no runner has an empty command. -/
theorem runnerOf_ne (command : Command) : runnerOf command ≠ .available [] := by
  unfold runnerOf
  split
  · exact Runner.noConfusion
  · next nonempty => exact fun same => nonempty (Runner.available.inj same)

/-- A registry made of commands can be invoked, whatever commands these are. -/
theorem ofCommands (commands : List (String × Command)) :
    (Registry.ofCommands commands).Invocable := by
  suffices ∀ r : Registry, r.Invocable → (commands.foldl
      (fun r c => r.bind (Tag.ofExtension c.1) (runnerOf c.2)) r).Invocable from
    this _ empty
  induction commands with
  | nil => exact fun _ h => h
  | cons command rest ih => exact fun r h => ih _ (h.bind _ (runnerOf_ne _))

theorem runner_ne (gate : Gate) : gate.runner ≠ .available [] := by
  unfold Gate.runner
  split <;> simp

/-- **Acting on the state of the native program** leaves every runner with a
command. -/
theorem apply {σ : Type} {r : Registry} (h : r.Invocable) (host : Host σ)
    (gate : Gate) (staleness : Staleness) (skipBuild : Bool) (m : Machine σ) :
    (gate.apply host r staleness skipBuild m).2.1.Invocable := by
  have usable := h.bind gate.tag (runner_ne gate)
  -- a reason is no command
  have unusable : ∀ reason, (r.bind gate.tag (.unavailable reason)).Invocable :=
    fun _ => h.bind gate.tag Runner.noConfusion
  unfold Gate.apply
  split
  · exact usable
  · split
    · dsimp only
      split
      · exact unusable _
      · exact usable
    · split
      · exact usable
      · exact unusable _

end Registry.Invocable

end CrossBench
