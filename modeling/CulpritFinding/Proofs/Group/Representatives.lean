import CulpritFinding.Proofs.Group.Founding
import CulpritFinding.Proofs.Run
import Mathlib.Data.List.Pairwise

namespace CulpritFinding

/-- Two groups that are not about one failure. -/
def FailureGroup.Apart (g g' : FailureGroup) : Prop :=
  g.project = g'.project → g.kind = g'.kind → g.signature = g'.signature →
    g.window.overlaps g'.window = false

instance : Std.Symm FailureGroup.Apart where
  symm g g' apart project kind signature := by
    rw [RegressionWindow.overlaps_comm]
    exact apart project.symm kind.symm signature.symm

structure GroupingRequest.About (r : GroupingRequest) (build : BuildKey) (kind : FailureKind)
    (signature : FailureSignature) : Prop where
  build : r.build.key = build
  kind : r.kind = kind
  signature : r.signature = signature

structure GroupingEpisode where
  services : Services
  request : GroupingRequest
  before : EngineState

namespace GroupingEpisode

def answer (e : GroupingEpisode) : Except AnalysisError (Option GroupMembership) :=
  ((e.request.run e.services).runOn e.before).1

def after (e : GroupingEpisode) : EngineState := ((e.request.run e.services).runOn e.before).2

/-- Whether the failure speaks for its group. -/
def isNew (e : GroupingEpisode) : Bool :=
  match e.answer with
  | .ok (some membership) => membership.isNew
  | _ => false

theorem grouping (e : GroupingEpisode) :
    Grouping e.services e.request e.before e.answer e.after :=
  e.request.run_runOn e.services e.before

end GroupingEpisode

/-- Failures that were grouped one after the other, the latest first, and the state after it. -/
inductive GroupingRun : List GroupingEpisode → EngineState → Prop
  | start : GroupingRun [] .initial
  | step {past : List GroupingEpisode} {e : GroupingEpisode} (run : GroupingRun past e.before) :
      GroupingRun (e :: past) e.after

/-- Every group goes back to a failure that was grouped, and every failure that speaks for a group
to one that its build started. -/
structure Represented (past : List GroupingEpisode) (s : EngineState) : Prop where
  unique : (s.store.groups.map (·.id)).Nodup
  apart : s.store.foundings.Pairwise FailureGroup.Apart
  founded : ∀ g ∈ s.store.foundings, g.project = g.representative.project ∧
    ∃ e ∈ past, e.request.About g.representative g.kind g.signature ∧ e.request.window = g.window
  spoken : ∀ e ∈ past, e.isNew = true →
    ∃ g ∈ s.store.foundings, e.request.About g.representative g.kind g.signature

variable {services : Services} {r : GroupingRequest} {s s' : EngineState}
  {past : List GroupingEpisode} {e : GroupingEpisode}

theorem Grouping.spoken {membership : GroupMembership}
    (grouping : Grouping services r s (.ok (some membership)) s')
    (isNew : membership.isNew = true) :
    ∃ g ∈ s'.store.foundings, r.About g.representative g.kind g.signature := by
  cases grouping with
  | @own g signed found own =>
    obtain ⟨-, kind, signature, -⟩ := FailureTraits.fits_iff.mp
      (List.find?_some (FailureTraits.find?_of_firstFit? found))
    have member := FailureTraits.mem_of_firstFit? found
    exact ⟨g.founding, List.mem_map_of_mem member, own.symm, kind.symm, signature.symm⟩
  | known => cases isNew
  | joined => cases isNew
  | started =>
    exact ⟨r.founds.founding, List.mem_map_of_mem List.mem_concat_self, rfl, rfl, rfl⟩

theorem Represented.step (represented : Represented past e.before) :
    Represented (e :: past) e.after := by
  have earlier : ∀ g ∈ e.before.store.foundings, g.project = g.representative.project ∧
      ∃ e' ∈ e :: past, e'.request.About g.representative g.kind g.signature ∧
        e'.request.window = g.window := by
    intro g member
    obtain ⟨project, e', earlier, founder⟩ := represented.founded g member
    exact ⟨project, e', List.mem_cons_of_mem _ earlier, founder⟩
  have spoken : (∀ g ∈ e.before.store.foundings, g ∈ e.after.store.foundings) →
      ∀ e' ∈ e :: past, e'.isNew = true →
        ∃ g ∈ e.after.store.foundings, e'.request.About g.representative g.kind g.signature := by
    rintro kept e' member isNew
    rcases List.mem_cons.mp member with rfl | member
    · unfold GroupingEpisode.isNew at isNew
      split at isNew
      · rename_i membership answer
        exact Grouping.spoken (answer ▸ e'.grouping) isNew
      · cases isNew
    · obtain ⟨g, member, about⟩ := represented.spoken e' member isNew
      exact ⟨g, kept g member, about⟩
  rcases e.grouping.foundings represented.unique with same | ⟨alone, fresh, added⟩
  · refine ⟨e.grouping.unique represented.unique, ?_, ?_, spoken fun g member => same ▸ member⟩
    · exact same ▸ represented.apart
    · exact same ▸ earlier
  · refine ⟨e.grouping.unique represented.unique, ?_, ?_, spoken fun g member => ?_⟩
    · rw [added]
      refine List.pairwise_append.mpr ⟨represented.apart, List.pairwise_singleton .., ?_⟩
      intro g member g' single
      rw [List.mem_singleton.mp single]
      intro project kind signature
      have misfit := List.find?_eq_none.mp alone g member
      exact Bool.eq_false_iff.mpr fun overlap =>
        misfit (FailureTraits.fits_iff.mpr ⟨project, kind, signature, overlap⟩)
    · rw [added]
      intro g member
      rcases List.mem_append.mp member with member | member
      · exact earlier g member
      · rw [List.mem_singleton.mp member]
        exact ⟨rfl, e, List.mem_cons_self, ⟨rfl, rfl, rfl⟩, rfl⟩
    · rw [added]
      exact List.mem_append_left _ member

theorem GroupingRun.represented (run : GroupingRun past s) : Represented past s := by
  induction run with
  | start =>
    exact ⟨List.nodup_nil, List.Pairwise.nil, List.forall_mem_nil _, List.forall_mem_nil _⟩
  | step run represented => exact represented.step

/-- Two builds of a project in which the same things failed, in windows that overlap, do not both
speak for the failure, whatever else is grouped before, between and after. -/
theorem GroupingRun.one_representative (run : GroupingRun past s) {first second : BuildKey}
    (other : first ≠ second) (sameProject : first.project = second.project) {kind : FailureKind}
    {signature : FailureSignature} {w w' : RegressionWindow}
    (steady : ∀ e ∈ past, e.request.About first kind signature → e.request.window = w)
    (steady' : ∀ e ∈ past, e.request.About second kind signature → e.request.window = w')
    (overlap : w.overlaps w' = true) :
    ¬ ((∃ e ∈ past, e.request.About first kind signature ∧ e.isNew = true) ∧
      ∃ e ∈ past, e.request.About second kind signature ∧ e.isNew = true) := by
  have represented := run.represented
  have started : ∀ {build w},
      (∀ e ∈ past, e.request.About build kind signature → e.request.window = w) →
      (∃ e ∈ past, e.request.About build kind signature ∧ e.isNew = true) →
      ∃ g ∈ s.store.foundings, g.representative = build ∧ g.project = build.project ∧
        g.kind = kind ∧ g.signature = signature ∧ g.window = w := by
    rintro build w steady ⟨e, member, about, isNew⟩
    obtain ⟨g, started, about'⟩ := represented.spoken e member isNew
    obtain ⟨project, e', founder, about'', window⟩ := represented.founded g started
    have key : g.representative = build := about'.build.symm.trans about.build
    have sameKind : g.kind = kind := about'.kind.symm.trans about.kind
    have sameSignature : g.signature = signature := about'.signature.symm.trans about.signature
    rw [key, sameKind, sameSignature] at about''
    exact ⟨g, started, key, key ▸ project, sameKind, sameSignature,
      window.symm.trans (steady e' founder about'')⟩
  rintro ⟨speaks, speaks'⟩
  obtain ⟨g, member, key, project, sameKind, sameSignature, window⟩ := started steady speaks
  obtain ⟨g', member', key', project', sameKind', sameSignature', window'⟩ :=
    started steady' speaks'
  have distinct : g ≠ g' := by
    rintro rfl
    exact other (key.symm.trans key')
  have apart := represented.apart.forall member member' distinct
    (by rw [project, project', sameProject]) (sameKind.trans sameKind'.symm)
    (sameSignature.trans sameSignature'.symm)
  rw [window, window', overlap] at apart
  cases apart

namespace Shared

def window (low high : Int) : RegressionWindow :=
  ⟨some ⟨"good", some low⟩, ⟨"bad", some high⟩⟩

def request (freshId : Nat) (builder : String) (low high : Int) : GroupingRequest where
  freshId := ⟨freshId⟩
  build := ⟨"chromium", "ci", builder, 1, none, .failure, "bad", none, ["bad"],
    .ofList ["compile"], .empty, .empty, none⟩
  kind := .compile
  signature := .ofNodes ["foo.o"]
  window := window low high
  now := ⟨0, 0⟩

def linux : GroupingEpisode := ⟨.giving "8000001", request 1 "linux" 100 105, .initial⟩

def mac : GroupingEpisode := ⟨.giving "8000001", request 2 "mac" 103 108, linux.after⟩

def linuxAgain : GroupingEpisode := ⟨.giving "8000001", request 3 "linux" 100 105, mac.after⟩

def grouped : List GroupingEpisode := [linuxAgain, mac, linux]

theorem first_builder_speaks :
    linux.isNew = true ∧ linuxAgain.isNew = true ∧ mac.isNew = false := by
  have run : GroupingRun grouped linuxAgain.after := .step (.step (.step .start))
  have steady : ∀ e ∈ grouped, e.request.build.key = linux.request.build.key →
      e.request.window = linux.request.window := by decide
  have steady' : ∀ e ∈ grouped, e.request.build.key = mac.request.build.key →
      e.request.window = mac.request.window := by decide
  have one : ¬ ((∃ e ∈ grouped, e.request.About linux.request.build.key .compile
        (.ofNodes ["foo.o"]) ∧ e.isNew = true) ∧
      ∃ e ∈ grouped, e.request.About mac.request.build.key .compile (.ofNodes ["foo.o"]) ∧
        e.isNew = true) :=
    run.one_representative (by decide) (by rfl)
      (fun e member about => steady e member about.build)
      (fun e member about => steady' e member about.build) (by decide)
  have speaks : linux.isNew = true := by decide +kernel
  refine ⟨speaks, by decide +kernel, Bool.eq_false_iff.mpr fun speaks' => one ⟨?_, ?_⟩⟩
  · exact ⟨linux, by simp [grouped], ⟨rfl, rfl, rfl⟩, speaks⟩
  · exact ⟨mac, by simp [grouped], ⟨rfl, rfl, rfl⟩, speaks'⟩

end Shared

end CulpritFinding
