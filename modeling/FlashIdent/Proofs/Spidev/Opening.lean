import FlashIdent.Spidev.Device

/-!
# Opened devices

A device that opens is not held, runs at the speed that was asked for, and moves as many bytes at once as the
kernel says when it has been set up.  Opening asks the kernel for a file and for three settings and for nothing
else that could change it, so what these requests keep is kept.

The way through an opening has an early end at each request.  `Action.Triple` states what holds before and
after an action and splits at each sequencing, so the ends need not be told apart by their states.
-/

namespace FlashIdent

/-! ### Triples -/

namespace Action

variable {σ α β : Type}

/-- Run from a state with the first property, the action ends with the second. -/
def Triple (pre : σ → Prop) (m : Action σ α) (post : α → σ → Prop) : Prop :=
  ∀ s, pre s → post (run m s).value (run m s).state

namespace Triple

variable {pre : σ → Prop}

theorem pure {a : α} {post : α → σ → Prop} (h : ∀ s, pre s → post a s) :
    Triple pre (Pure.pure a : Action σ α) post := h

theorem bind {m : Action σ α} {f : α → Action σ β} {middle : α → σ → Prop} {post : β → σ → Prop}
    (hm : Triple pre m middle) (hf : ∀ a, Triple (middle a) (f a) post) : Triple pre (m >>= f) post :=
  fun s hs => hf _ _ (hm s hs)

theorem say (level : Log.Level) (source : Log.Source) (text : String) :
    Triple pre (Action.say level source text : Action σ Unit) fun _ => pre :=
  fun _ hs => hs

end Triple

end Action

/-! ### Opening -/

namespace Spidev

open FlashIdent.Action (run Triple)

variable {κ : Type} {k : Kernel κ} {kept : κ → Prop}

theorem openFile_keeps (hfile : ∀ path s, kept s → kept (k.openFile path s).2) (path : String) :
    Triple kept (openFile k path) fun _ => kept := by
  unfold openFile
  split
  · exact Triple.pure fun _ hs => hs
  · exact hfile path

/-- The size of the buffer: what the parameter states if it states a size, else one page. -/
def Kernel.bufferSize (k : Kernel κ) (s : κ) : Nat :=
  ((k.bufferParameter s).bind readBufferSize?).getD (k.pageSize s)

/-- Finding out the size says something on each way, and changes nothing. -/
theorem findBufferSize_keeps :
    Triple kept (findBufferSize k) fun size s => kept s ∧ size = k.bufferSize s := by
  intro s hs
  rcases hparameter : k.bufferParameter s with _ | text
  · simp [findBufferSize, findPageSize, say, Kernel.bufferSize, hparameter, hs]
  · rcases hsize : readBufferSize? text with _ | size
    · simp [findBufferSize, findPageSize, say, Kernel.bufferSize, hparameter, hsize, hs]
    · simp [findBufferSize, say, Kernel.bufferSize, hparameter, hsize, hs]

/-- A kernel that keeps something when it opens a file and when it takes a setting keeps it while a device is
opened, and the device that comes of it is a fresh one. -/
theorem openDevice_keeps (hfile : ∀ path s, kept s → kept (k.openFile path s).2)
    (hset : ∀ setting s, kept s → kept (k.set setting s).2) (config : Config) :
    Triple kept (openDevice k config) fun answer s =>
      kept s ∧ ∀ device, answer = .ok device →
        device = { speedHz := config.speedHz, bufferSize := k.bufferSize s } := by
  have hconfigure : ∀ setting failure, Triple kept (configure k setting failure) fun _ => kept :=
    fun setting _ => hset setting
  have hrefused : ∀ e : Error, Triple kept (return .error e : Action κ (Except Error Device))
      fun answer s => kept s ∧ ∀ device, answer = .ok device →
        device = { speedHz := config.speedHz, bufferSize := k.bufferSize s } :=
    fun e => Triple.pure fun s hs => ⟨hs, fun device h => nomatch h⟩
  unfold openDevice
  split
  · exact hrefused _
  refine Triple.bind (Triple.say _ _ _) fun _ => ?_
  refine Triple.bind (openFile_keeps hfile config.device) ?_
  rintro (e | ⟨⟩)
  · exact hrefused e
  refine Triple.bind (hconfigure _ _) ?_
  rintro (e | ⟨⟩)
  · exact hrefused e
  refine Triple.bind (hconfigure _ _) ?_
  rintro (e | ⟨⟩)
  · exact hrefused e
  refine Triple.bind (hconfigure _ _) ?_
  rintro (e | ⟨⟩)
  · exact hrefused e
  refine Triple.bind (Triple.say _ _ _) fun _ => ?_
  refine Triple.bind findBufferSize_keeps fun size => ?_
  refine Triple.bind (Triple.say _ _ _) fun _ => ?_
  refine Triple.pure ?_
  rintro s ⟨hs, hsize⟩
  exact ⟨hs, fun device h => hsize ▸ (Except.ok.inj h).symm⟩

theorem openDevice_unheld (k : Kernel κ) (s : κ) {config : Config} {device : Device}
    (hopen : (run (openDevice k config) s).value = .ok device) : device.held = false := by
  have hkeeps : Triple (fun _ => True) (openDevice k config) _ :=
    openDevice_keeps (fun _ _ h => h) (fun _ _ h => h) config
  obtain ⟨_, hdevice⟩ := hkeeps s trivial
  rw [hdevice device hopen]

end Spidev

end FlashIdent
