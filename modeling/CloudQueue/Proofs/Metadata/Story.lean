import CloudQueue.Proofs.Metadata.Protocol

/-!
# What the log of detections tells

Every detection leaves a story in the log: the failure of each probe that failed, then the verdict.
A log of stories is cut into them in one way only, behind each verdict (`cut_flatten`), so whoever
has the log alone knows the verdicts and how many probes were run (`log_tells_all`).
-/

namespace CloudQueue.Metadata

open Http (Server)

variable {σ : Type} {baseUrl : String} {story log : List Event} {stories : List (List Event)}

/-! ## Stories -/

/-- The event of a verdict, with the base URL it was found at. -/
def told (baseUrl : String) (verdict : Bool) : Event :=
  { level := .info
    message := "environment detected"
    fields := [("inside_aws", .flag verdict), ("base_url", .text baseUrl)] }

def identityFailed (text : String) : Event :=
  { level := .debug
    message := "IMDSv1 probe failed"
    fields := [("error", .text text), ("path", .text "/latest/dynamic/instance-identity/")] }

def tokenFailed (text : String) : Event :=
  { level := .debug
    message := "IMDSv2 probe failed"
    fields := [("error", .text text), ("path", .text "/latest/api/token")] }

/-- A verdict, behind the failure of no probe, of the identity probe, or of both. -/
inductive IsStory (baseUrl : String) : List Event → Prop
  | first (verdict : Bool) : IsStory baseUrl [told baseUrl verdict]
  | second (text : String) (verdict : Bool) :
      IsStory baseUrl [identityFailed text, told baseUrl verdict]
  | third (text text' : String) (verdict : Bool) :
      IsStory baseUrl [identityFailed text, tokenFailed text', told baseUrl verdict]

/-- A log, cut behind each of its verdicts. -/
def cut : List Event → List (List Event)
  | [] => []
  | e :: log =>
    if e.level = .info then [e] :: cut log
    else
      match cut log with
      | [] => [[e]]
      | story :: stories => (e :: story) :: stories

theorem IsStory.cut_append (h : IsStory baseUrl story) (log : List Event) :
    cut (story ++ log) = story :: cut log := by
  cases h <;> simp [cut, told, identityFailed, tokenFailed]

theorem IsStory.spans_eq_nil (h : IsStory baseUrl story) : ∀ e ∈ story, e.spans = [] := by
  cases h <;> simp [told, identityFailed, tokenFailed]

/-- Cutting a log gives back the stories that it is made of. -/
theorem cut_flatten (h : ∀ story ∈ stories, IsStory baseUrl story) :
    cut stories.flatten = stories := by
  induction stories with
  | nil => rfl
  | cons story stories ih =>
    rw [List.flatten_cons, (h story List.mem_cons_self).cut_append,
      ih fun other hother => h other (List.mem_cons_of_mem story hother)]

/-! ## What can be told from a log -/

def toldBy? (e : Event) : Option Bool :=
  match e.fields with
  | ("inside_aws", .flag verdict) :: _ => some verdict
  | _ => none

def verdictsIn (log : List Event) : List Bool := log.filterMap toldBy?

def failuresIn (log : List Event) : Nat := log.countP (·.level = .debug)

/-- How many probes were run in a log: one for each verdict, and one for each failure of the first
probe. -/
def probesIn (log : List Event) : Nat :=
  log.countP (·.level = .info) + log.countP (·.message = "IMDSv1 probe failed")

def ProbeRun.failed (run : ProbeRun σ) : Bool :=
  match run.result with
  | .ok () => false
  | .error _ => true

def Block.probes (b : Block σ) : List (ProbeRun σ) := b.identity :: b.token?.toList

/-! ## The story of a block -/

/-- The story of a block of probes with its verdict: the failures with the texts of their errors. -/
inductive Block.Story (baseUrl : String) : Block σ → Bool → List Event → Prop
  | first {run : ProbeRun σ} (h : run.result = .ok ()) :
      Story baseUrl ⟨run, none⟩ true [told baseUrl true]
  | second {run run' : ProbeRun σ} {e : ProbeError} (h : run.result = .error e)
      (h' : run'.result = .ok ()) : Story baseUrl ⟨run, some run'⟩ true
        [identityFailed e.message, told baseUrl true]
  | third {run run' : ProbeRun σ} {e e' : ProbeError} (h : run.result = .error e)
      (h' : run'.result = .error e') : Story baseUrl ⟨run, some run'⟩ false
        [identityFailed e.message, tokenFailed e'.message, told baseUrl false]

theorem detect_story (client : Client) (server : Server σ) (state : σ) :
    (Block.of client server state).Story client.baseUrl (detect client server state).verdict
      (detect client server state).events := by
  unfold detect
  rcases hfirst : (Probe.identity.run client server state).result with e | ⟨⟩
  · rw [Block.of_error hfirst]
    rcases hsecond : (Probe.token.run client server
      (Probe.identity.run client server state).state).result with e' | ⟨⟩
    · simp only [hfirst, hsecond]
      exact .third hfirst hsecond
    · simp only [hfirst, hsecond]
      exact .second hfirst hsecond
  · rw [Block.of_ok hfirst]
    simp only [hfirst]
    exact .first hfirst

/-- Which story a block has, by its probes and by its verdict. -/
structure Block.Recounts (baseUrl : String) (b : Block σ) (verdict : Bool) (story : List Event) :
    Prop where
  first_iff : story = [told baseUrl verdict] ↔ b.identity.result = .ok ()
  second_iff : ∀ text, story = [identityFailed text, told baseUrl verdict] ↔
    (∃ e, b.identity.result = .error e ∧ e.message = text) ∧
      ∃ run, b.token? = some run ∧ run.result = .ok ()
  third_iff : ∀ text text',
    story = [identityFailed text, tokenFailed text', told baseUrl verdict] ↔
      (∃ e, b.identity.result = .error e ∧ e.message = text) ∧
        ∃ run e, b.token? = some run ∧ run.result = .error e ∧ e.message = text'
  false_iff : verdict = false ↔
    ∃ text text', story = [identityFailed text, tokenFailed text', told baseUrl verdict]

section

variable {b : Block σ} {verdict : Bool}

theorem Block.Story.isStory (h : b.Story baseUrl verdict story) : IsStory baseUrl story := by
  cases h with
  | first => exact .first true
  | second => exact .second _ true
  | third => exact .third _ _ false

theorem Block.Story.told_mem (h : b.Story baseUrl verdict story) :
    told baseUrl verdict ∈ story := by
  cases h <;> simp

theorem Block.Story.recounts (h : b.Story baseUrl verdict story) :
    b.Recounts baseUrl verdict story := by
  cases h with
  | first h =>
    exact ⟨by simp [h], fun text => by simp [h, told, identityFailed], by simp, by simp⟩
  | second h h' =>
    exact ⟨by simp [h], fun text => by simp [h, h', identityFailed],
      fun text text' => by simp [h'], by simp⟩
  | third h h' =>
    exact ⟨by simp [h], fun text => by simp [h'],
      fun text text' => by simp [h, h', identityFailed, tokenFailed],
      by simp [identityFailed, tokenFailed]⟩

theorem Block.Story.verdictsIn_eq (h : b.Story baseUrl verdict story) :
    verdictsIn story = [verdict] := by
  cases h <;> rfl

theorem Block.Story.failuresIn_eq (h : b.Story baseUrl verdict story) :
    failuresIn story = b.probes.countP ProbeRun.failed := by
  cases h <;> simp [failuresIn, told, identityFailed, tokenFailed, Block.probes, ProbeRun.failed, *]

theorem Block.Story.probesIn_eq (h : b.Story baseUrl verdict story) :
    probesIn story = b.probes.length := by
  cases h <;> simp [probesIn, told, identityFailed, tokenFailed, Block.probes]

end

/-! ## Stories in a row -/

section

variable {client : Client} {server : Server σ} {state : σ} {blocks : List (Block σ)}

theorem AreBlocks.tell (h : AreBlocks client server state blocks) :
    List.Forall₂ (fun b d => b.Story client.baseUrl d.verdict d.events) blocks
      (detectTimes client server blocks.length state) := by
  induction blocks generalizing state with
  | nil => exact .nil
  | cons b blocks ih =>
    obtain ⟨hfits, hrest⟩ := h
    obtain rfl := hfits.eq_of
    rw [← (detect_tells client server state).state_eq] at hrest
    exact .cons (detect_story client server state) (ih hrest)

theorem isStory_of_mem_detectTimes {d : Detection σ} {n : Nat}
    (h : d ∈ detectTimes client server n state) : IsStory client.baseUrl d.events := by
  induction n generalizing state with
  | zero => cases h
  | succ n ih =>
    rcases List.mem_cons.mp h with rfl | hrest
    · exact (detect_story client server state).isStory
    · exact ih hrest

end

theorem verdictsIn_append (first second : List Event) :
    verdictsIn (first ++ second) = verdictsIn first ++ verdictsIn second := List.filterMap_append

theorem failuresIn_append (first second : List Event) :
    failuresIn (first ++ second) = failuresIn first + failuresIn second := List.countP_append

theorem probesIn_append (first second : List Event) :
    probesIn (first ++ second) = probesIn first + probesIn second := by
  unfold probesIn
  rw [List.countP_append, List.countP_append]
  omega

/-- What the log of stories tells is what the stories tell one by one. -/
theorem told_of_stories {blocks : List (Block σ)} {runs : List (Detection σ)}
    (h : List.Forall₂ (fun b d => b.Story baseUrl d.verdict d.events) blocks runs) :
    let log := runs.flatMap Detection.events
    verdictsIn log = runs.map Detection.verdict ∧
      failuresIn log = (blocks.flatMap Block.probes).countP ProbeRun.failed ∧
      probesIn log = (blocks.flatMap Block.probes).length := by
  induction h with
  | nil => exact ⟨rfl, rfl, rfl⟩
  | @cons b d blocks runs hstory _ ih =>
    obtain ⟨hverdicts, hfailures, hprobes⟩ := ih
    simp only [List.flatMap_cons, List.map_cons, List.countP_append, List.length_append,
      verdictsIn_append, failuresIn_append, probesIn_append, hverdicts, hfailures, hprobes,
      hstory.verdictsIn_eq, hstory.failuresIn_eq, hstory.probesIn_eq]
    exact ⟨List.singleton_append, trivial, trivial⟩

/-- **The log tells the whole story.** However often a client detects its environment, and whatever
the server does, the log is the stories of the detections, in order, and is made of stories in no
other way; cutting it behind each verdict finds them. The story of a detection has the verdict
alone if and only if the identity probe succeeded, the failure of the identity probe in front of it
if and only if only the token probe did, and both failures if and only if the verdict is negative;
each failure has the text of the error of its probe. So from the log alone one has the verdicts, how
many probes failed and how many were run. -/
theorem log_tells_all (timeout : Nat) (base : String) (server : Server σ) (state : σ) (n : Nat) :
    let client := Client.new timeout base
    let runs := detectTimes client server n state
    let log := runs.flatMap Detection.events
    ((∃ k, base.toList = client.baseUrl.toList ++ List.replicate k '/') ∧
      client.baseUrl.toList.getLast? ≠ some '/') ∧
    runs.length = n ∧ (∀ story ∈ runs.map Detection.events, IsStory client.baseUrl story) ∧
    (∀ stories, (∀ story ∈ stories, IsStory client.baseUrl story) →
      (stories.flatten = log ↔ stories = runs.map Detection.events)) ∧
    cut log = runs.map Detection.events ∧ verdictsIn log = runs.map Detection.verdict ∧
    ∃ blocks, AreBlocks client server state blocks ∧
      List.Forall₂ (fun b d => b.Recounts client.baseUrl d.verdict d.events) blocks runs ∧
      failuresIn log = (blocks.flatMap Block.probes).countP ProbeRun.failed ∧
      probesIn log = (blocks.flatMap Block.probes).length := by
  intro client runs log
  obtain ⟨blocks, hblocks, rfl, -⟩ := detectTimes_blocks client server n state
  have hstories := hblocks.tell
  obtain ⟨hverdicts, hfailures, hprobes⟩ := told_of_stories hstories
  have hlog : log = (runs.map Detection.events).flatten := List.flatMap_def
  have hall : ∀ story ∈ runs.map Detection.events, IsStory client.baseUrl story := by
    rw [List.forall_mem_map]
    exact fun _ => isStory_of_mem_detectTimes
  have hcut : cut log = runs.map Detection.events := by
    rw [hlog, cut_flatten hall]
  refine ⟨Client.normalize_spec base, hstories.length_eq.symm, hall, fun stories hstories' => ?_,
    hcut, hverdicts, blocks, hblocks, hstories.imp fun _ _ h => h.recounts, hfailures, hprobes⟩
  constructor
  · intro hflatten
    rw [← hcut, ← hflatten, cut_flatten hstories']
  · rintro rfl
    exact hlog.symm

/-- What the log of two detections tells: one that found nothing, and one that the token probe
decided. -/
example :
    let log := [identityFailed "timed out", tokenFailed "timed out", told "http://a" false,
      identityFailed "timed out", told "http://a" true]
    cut log = [log.take 3, log.drop 3] ∧ verdictsIn log = [false, true] ∧ failuresIn log = 3 ∧
      probesIn log = 4 := by
  decide +kernel

end CloudQueue.Metadata
