import PartitionImage.Proofs.Delivery
import PartitionImage.Proofs.Image.Memory
import PartitionImage.Proofs.Image.Twins
/-!
# However an image is delivered

A handle does not show how its source delivers: in what pieces the bytes come, and what is interrupted in between.

* `Source.interchangeable_serves` says that sources of the same bytes cannot be told apart.
* `Image.independent_of_delivery` is what that means for every read and for every run of calls.
-/

namespace PartitionImage

/-- **Sources of the same bytes cannot be told apart**, if they cannot be read at the same places. -/
theorem Source.interchangeable_serves (bytes : Bytes) (fault : Nat → Option IoError) :
    Interchangeable fun one other => ∀ disk reach,
      one.Serves disk bytes fault reach ∧ other.Serves disk bytes fault reach where
  size := by
    intro one other h disk
    rw [(h disk 0).1.size_eq, (h disk 0).2.size_eq]
  read := by
    intro one other h disk offset n
    refine ⟨?_, fun after reach => ?_⟩
    · rw [(h disk _).1.readExact_eq (Nat.le_refl _), (h disk _).2.readExact_eq (Nat.le_refl _)]
    · exact ⟨(h after reach).1.later (one.readExact_later disk offset n),
        (h after reach).2.later (other.readExact_later disk offset n)⟩

namespace Image

open PartitionImage.Action (perform)

variable {O : Type} [Overlay O]

/-- **Nothing depends on how a source delivers.**  A read comes to an end, however often it is interrupted and however
little a call gives; it succeeds just if all that is wanted is there, and what the buffer has in the end depends only on
the bytes of the source and on where they cannot be read.  So handles on two sources of the same bytes are in the same
state after any calls, but for the source, give the same answers, and end alike, whatever their overlay does. -/
theorem independent_of_delivery :
    (∀ (source : Source) (disk : Disk) (bytes : Bytes) (fault : Nat → Option IoError) (reach : Nat),
      source.Serves disk bytes fault reach → ∀ (offset : Nat) (buffer : Bytes), offset + buffer.length ≤ reach →
        source.Delivered disk bytes fault offset buffer)
      ∧ IoError.endOfImage.kind = .unexpectedEof
      ∧ ∀ (bytes : Bytes) (fault : Nat → Option IoError) (source other : Source),
        (∀ disk reach, source.Serves disk bytes fault reach) → (∀ disk reach, other.Serves disk bytes fault reach) →
          ∀ (path : String) (options : OpenOptions) (setup : Overlay.Setup O) (world : World)
            (operations : List Operation) (state twin : Image O × World),
            Operation.run operations (ofSource source path options setup, world) = state →
            Operation.run operations (ofSource other path options setup, world) = twin →
              twin = ({ state.1 with source := twin.1.source }, state.2)
                ∧ (∀ operation : Operation, operation.answer twin = operation.answer state)
                ∧ ∀ ending : Ending, ending.after twin = ending.after state := by
  refine ⟨fun source disk bytes fault reach hserves offset buffer hreach => hserves.delivered hreach, rfl, ?_⟩
  rintro bytes fault source other hsource hother path options setup world operations state twin rfl rfl
  have hsame := Source.interchangeable_serves bytes fault
  have hstart : Twin (fun one other => ∀ disk reach, one.Serves disk bytes fault reach
        ∧ other.Serves disk bytes fault reach) Eq
      (ofSource (O := O) source path options setup, world) (ofSource (O := O) other path options setup, world) :=
    .mk (fun disk reach => ⟨hsource disk reach, hother disk reach⟩) rfl
  have htwin := hstart.run hsame operations
  refine ⟨htwin.eq, fun operation => ?_, htwin.ending⟩
  by_cases hoperation : operation = .verify
  · subst hoperation
    exact congrArg (fun result => (⟨[], result.map fun _ => none⟩ : Transfer Error (Option Bool)))
      (htwin.verify hsame).1
  · exact (htwin.call hsame hoperation).1

/-- Five bytes come two at a time, every other call is interrupted, and the last byte cannot be read.  An image that
comes three bytes at a time is verified and written as one that comes at once, and tells the same of itself. -/
theorem independent_of_delivery_inPieces :
    ((Source.inPieces [1, 2, 3, 4, 5] (some 2) (some 4) true).readExact {} 1 3).1.into [0, 0, 0] = [2, 3, 4]
      ∧ ((Source.inPieces [1, 2, 3, 4, 5] (some 2) (some 4) true).readExact {} 1 4).1.result
        = .error (.injected "read")
      ∧ ∃ state twin, Operation.run [.verify, .write [0x77, 0x77]] (inMemory twoBlocks.bytes) = state
        ∧ Operation.run [.verify, .write [0x77, 0x77]] (ofSource (.inPieces twoBlocks.bytes (some 3) none true)
          "a.img" { mode := .readWrite } [], ({} : World)) = twin
        ∧ twin = ({ state.1 with source := twin.1.source }, state.2) ∧ twin.1.tell? = some 1
        ∧ (Operation.read 2).answer twin = (Operation.read 2).answer state
        ∧ Ending.dropped.after twin = Ending.dropped.after state := by
  obtain ⟨hreads, -, hhandles⟩ := independent_of_delivery (O := MemoryStore)
  have hpieces := Source.serves_inPieces {} [1, 2, 3, 4, 5] (by decide : some 2 ≠ some 0) (some 4) true 5
  have hthree := hreads _ _ _ _ _ hpieces 1 [0, 0, 0] (by decide)
  have hfour := hreads _ _ _ _ _ hpieces 1 [0, 0, 0, 0] (by decide)
  have hok := (hthree.ok_iff (by decide)).mpr (.inl (by decide))
  obtain ⟨verified, descriptor, map, hverify, hready⟩ := exists_ready twoBlocks twoBlocks.records (by decide)
  obtain ⟨written, hwrite, hwritten⟩ := hready.write [0x77, 0x77] rfl (by decide)
  have hcalls : ∀ start : Image MemoryStore × World, perform verify start = (.ok (), verified) →
      Operation.run [.verify, .write [0x77, 0x77]] start = written := by
    intro start hstart
    show (perform (write [0x77, 0x77]) (perform verify start).2).2 = _
    rw [hstart, hwrite]
  have hrun := hcalls _ hverify
  have htell : ∀ twin : Image MemoryStore × World, twin = ({ written.1 with source := twin.1.source }, written.2) →
      twin.1.tell? = some 1 := by
    intro twin htwin
    rw [htwin, tell?, hwritten.stage]
    exact congrArg some hwritten.cursor
  obtain ⟨hstate, hanswers, hends⟩ := hhandles twoBlocks.bytes (fun _ => none)
    (.ofBytes twoBlocks.bytes) (.inPieces twoBlocks.bytes (some 3) none true)
    (fun disk reach => Source.serves_ofBytes disk _ reach)
    (fun disk reach => Source.serves_inPieces disk twoBlocks.bytes (by decide : some 3 ≠ some 0) none true reach)
    "a.img" { mode := .readWrite } [] {} _ _ _ hrun rfl
  refine ⟨hthree.filled hok, (hfour.faulty 4 _ (by decide) (by decide) (by decide) rfl (by decide)).1,
    written, _, hrun, rfl, hstate, htell _ hstate, hanswers _, hends _⟩

end Image

end PartitionImage
