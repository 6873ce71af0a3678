import PartitionImage.Image.Basic
/-!
# Verification

Before its blocks can be had an image is verified, in steps: the head names a known layout, the
descriptor is whole and the file long enough for the bitmap, the overlay is opened as the mode says,
the bitmap is loaded, and the numbers in the descriptor are put right.

* `Image.initOverlay` opens the overlay.
* `Image.repairDeviceSize` and `Image.repairUsedBlocks` correct the descriptor.
* `Image.verify` is the whole.
-/

namespace PartitionImage.Image

variable {O : Type} [Overlay O]

def reach (stage : Stage) : Action (Image O × World) Error Unit :=
  update fun image => { image with stage := stage }

/-- The path of the overlay, which is settled now if it was not configured. -/
def settleOverlayPath : Action (Image O × World) Error String := do
  let (image, _) ← get
  let path := image.overlayPath.getD (defaultOverlayPath image.path)
  update fun image => { image with overlayPath := some path }
  return path

/-- Opens the overlay as the mode says.  Read-only images have none; with `readWrite` a configured
overlay that cannot be opened is left to the first write; with `create` it has to be opened or
made. -/
def initOverlay (blockSize totalBlocks : Nat) : Action (Image O × World) Error Unit := do
  let (image, _) ← get
  match image.options.mode with
  | .readOnly => pure ()
  | .readWrite =>
    if let some path := image.overlayPath then
      let opened ← .attempt <| .onWorld <|
        .zoom World.disk (fun disk world => world.withDisk disk) id
          (Overlay.init image.setup path blockSize totalBlocks)
      match opened with
      | .ok store => update fun image => { image with overlay := some store }
      | .error error => .warn (.overlayNotOpened path error)
  | .create =>
    let path ← settleOverlayPath
    let store ← .onWorld <| .onDisk .overlay
      (Overlay.create image.setup path blockSize totalBlocks)
    update fun image => { image with overlay := some store }

def repairDeviceSize (descriptor : Descriptor) : Action (Image O × World) Error Descriptor := do
  let computed := saturate64 (descriptor.totalBlocks * descriptor.blockSize)
  if descriptor.deviceSize = computed then return descriptor
  .warn (.deviceSize descriptor.deviceSize computed)
  return { descriptor with deviceSize := computed }

/-- The bitmap has `scanned` used blocks.  If descriptors are taken strictly, another number in the descriptor is a
failure; otherwise it is replaced. -/
def repairUsedBlocks (strict : Bool) (descriptor : Descriptor) (scanned : Nat) :
    Action (Image O × World) Error Descriptor := do
  if descriptor.usedBlocks = scanned then return descriptor
  if strict then throw (.usedBlockCount descriptor.usedBlocks scanned)
  .warn (.usedBlockCount descriptor.usedBlocks scanned)
  return { descriptor with usedBlocks := scanned }

def verifyOverlay : Action (Image O × World) Error Unit := do
  if let some store := (← get).1.overlay then
    onOverlay store Overlay.verify
    update fun image => { image with overlayVerified := true }

/-- Validates the descriptor and loads the bitmap.  Only a handle that was just opened can be
verified; one whose verification failed after the head was read is of no use but can be closed. -/
def verify : Action (Image O × World) Error Unit := do
  require .opened
  let (image, _) ← get
  let version ← onSource BlockMap.readVersion
  reach .headerValid
  let some format := Format.ofVersion? version | throw (.unsupportedVersion version)
  reach .versionSelected
  let (descriptor, layout) ← onSource (BlockMap.readDescriptor format)
  reach (.initialized descriptor layout)
  initOverlay descriptor.blockSize descriptor.totalBlocks
  let map ← onSource
    (BlockMap.load format layout descriptor.totalBlocks image.options.factor)
  let descriptor ← repairDeviceSize descriptor
  reach (.initialized descriptor layout)
  let descriptor ← repairUsedBlocks image.options.strict descriptor map.stats.used
  reach (.initialized descriptor layout)
  verifyOverlay
  update fun image =>
    { image with stage := .verified descriptor map, cursor := 0, passed := 0 }

end PartitionImage.Image
