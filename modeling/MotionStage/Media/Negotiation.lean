import MotionStage.Media.Basic

/-!
This module contains the negotiation of a video stream between the master descriptor of the camera
and what a client can show.
-/

namespace MotionStage

inductive ToneMapMode where
  | none
  | hdr10ToSdr
  deriving DecidableEq, Repr

structure VideoClientCapability where
  supportsHdr10 : Bool
  maxWidth : Nat
  maxHeight : Nat
  maxFps : Nat
  deriving DecidableEq, Repr

structure NegotiatedVideoStream where
  descriptor : VideoStreamDescriptor
  toneMap : ToneMapMode
  deriving DecidableEq, Repr

def negotiateStream (master : VideoStreamDescriptor) (client : VideoClientCapability)
    : Except MediaError NegotiatedVideoStream :=
  match master.validate with
  | .error e => .error e
  | .ok () =>
    if master.width > client.maxWidth ∨ master.height > client.maxHeight
        ∨ master.fps > client.maxFps then
      .error (.unsupportedDescriptor "client capability cannot satisfy DCC-authored descriptor")
    else if master.dynamicRange = .hdr10 ∧ client.supportsHdr10 = false then
      .ok
        { descriptor :=
            { width := master.width
              height := master.height
              fps := master.fps
              dynamicRange := .sdr
              colorPrimaries := .bt709
              transfer := .srgb
              bitDepth := 8 }
          toneMap := .hdr10ToSdr }
    else
      .ok ⟨master, .none⟩

namespace VideoStreamDescriptor

def Fits (master : VideoStreamDescriptor) (client : VideoClientCapability) : Prop :=
  master.width ≤ client.maxWidth ∧ master.height ≤ client.maxHeight ∧ master.fps ≤ client.maxFps

/--
What a screen without HDR shows.
-/
def IsStandard (descriptor : VideoStreamDescriptor) : Prop :=
  descriptor.dynamicRange = .sdr ∧ descriptor.colorPrimaries = .bt709
    ∧ descriptor.transfer = .srgb ∧ descriptor.bitDepth = 8

theorem validate_of_sdr {descriptor : VideoStreamDescriptor} (hwidth : descriptor.width ≠ 0)
    (hheight : descriptor.height ≠ 0) (hfps : descriptor.fps ≠ 0)
    (hsdr : descriptor.dynamicRange = .sdr)
    : descriptor.validate = .ok () := by
  simp [validate, hwidth, hheight, hfps, hsdr]

theorem ne_zero_of_validate {descriptor : VideoStreamDescriptor} (h : descriptor.validate = .ok ())
    : descriptor.width ≠ 0 ∧ descriptor.height ≠ 0 ∧ descriptor.fps ≠ 0 := by
  unfold validate at h
  split at h
  . cases h
  . next hzero => simpa [not_or] using hzero

end VideoStreamDescriptor

open VideoStreamDescriptor

variable {master : VideoStreamDescriptor} {client : VideoClientCapability}

theorem negotiateStream_of_validate (hvalid : master.validate = .ok ())
    : (¬ master.Fits client ∧ (negotiateStream master client).isOk = false)
        ∨ (master.Fits client ∧ master.dynamicRange = .hdr10 ∧ client.supportsHdr10 = false
            ∧ negotiateStream master client
                = .ok ⟨⟨master.width, master.height, master.fps, .sdr, .bt709, .srgb, 8⟩,
                    .hdr10ToSdr⟩)
        ∨ (master.Fits client ∧ (client.supportsHdr10 = false → master.dynamicRange = .sdr)
            ∧ negotiateStream master client = .ok ⟨master, .none⟩) := by
  unfold negotiateStream Fits
  rw [hvalid]
  dsimp only
  split
  . next hlarge =>
    left
    refine ⟨?_, rfl⟩
    omega
  . next hfits =>
    have hfits : master.width ≤ client.maxWidth ∧ master.height ≤ client.maxHeight
        ∧ master.fps ≤ client.maxFps := by omega
    right
    split
    . next hhdr => exact .inl ⟨hfits, hhdr.1, hhdr.2, rfl⟩
    . next hpass =>
      right
      refine ⟨hfits, ?_, rfl⟩
      intro hclient
      cases hrange : master.dynamicRange with
      | sdr => rfl
      | hdr10 => exact absurd ⟨hrange, hclient⟩ hpass

theorem negotiateStream_eq_self (hvalid : master.validate = .ok ()) (hfits : master.Fits client)
    (hpass : client.supportsHdr10 = false → master.dynamicRange = .sdr)
    : negotiateStream master client = .ok ⟨master, .none⟩ := by
  rcases negotiateStream_of_validate hvalid with ⟨hlarge, -⟩ | ⟨-, hhdr, hclient, -⟩ | ⟨-, -, heq⟩
  . exact absurd hfits hlarge
  . rw [hpass hclient] at hhdr
    cases hhdr
  . exact heq

/--
What a client gets out of a negotiation with the master.
-/
structure Delivers (master : VideoStreamDescriptor) (client : VideoClientCapability)
    (stream : NegotiatedVideoStream) : Prop where
  valid : stream.descriptor.validate = .ok ()
  width : stream.descriptor.width = master.width
  height : stream.descriptor.height = master.height
  fps : stream.descriptor.fps = master.fps
  standard : client.supportsHdr10 = false → stream.descriptor.IsStandard
  stable : negotiateStream stream.descriptor client = .ok ⟨stream.descriptor, .none⟩

structure Deliverable (master : VideoStreamDescriptor) (client : VideoClientCapability) : Prop where
  isOk : (negotiateStream master client).isOk = true ↔ master.Fits client
  delivers : ∀ stream, negotiateStream master client = .ok stream → Delivers master client stream

theorem deliverable_of_eq_ok {stream : NegotiatedVideoStream} (hfits : master.Fits client)
    (heq : negotiateStream master client = .ok stream)
    : Deliverable master client ↔ Delivers master client stream := by
  constructor
  . intro h
    exact h.delivers stream heq
  . intro h
    constructor
    . rw [heq]
      exact iff_of_true rfl hfits
    . intro stream' hok
      rw [heq] at hok
      cases hok
      exact h

/--
The promise is kept, except that a master of standard range goes to a client without HDR with
whatever primaries, transfer function and bit depth it comes with.
-/
theorem deliverable_iff (hvalid : master.validate = .ok ())
    : Deliverable master client
        ↔
      (master.Fits client → client.supportsHdr10 = false → master.dynamicRange = .sdr
        → master.IsStandard) := by
  rcases negotiateStream_of_validate hvalid with
    ⟨hlarge, herror⟩ | ⟨hfits, hhdr, hclient, heq⟩ | ⟨hfits, hpass, heq⟩
  . apply iff_of_true
    . refine ⟨iff_of_false ?_ hlarge, ?_⟩
      . rw [herror]
        exact Bool.false_ne_true
      . intro stream hok
        rw [hok] at herror
        cases herror
    . exact fun hfits => absurd hfits hlarge
  . rw [deliverable_of_eq_ok hfits heq]
    apply iff_of_true
    . obtain ⟨hwidth, hheight, hfps⟩ := ne_zero_of_validate hvalid
      have hfallback : (⟨master.width, master.height, master.fps, .sdr, .bt709, .srgb, 8⟩
          : VideoStreamDescriptor).validate = .ok () :=
        validate_of_sdr hwidth hheight hfps rfl
      refine ⟨hfallback, rfl, rfl, rfl, ?_, ?_⟩
      . exact fun _ => ⟨rfl, rfl, rfl, rfl⟩
      . exact negotiateStream_eq_self hfallback hfits fun _ => rfl
    . intro _ _ hsdr
      rw [hsdr] at hhdr
      cases hhdr
  . rw [deliverable_of_eq_ok hfits heq]
    constructor
    . exact fun h _ hclient _ => h.standard hclient
    . intro hstandard
      refine ⟨hvalid, rfl, rfl, rfl, ?_, heq⟩
      exact fun hclient => hstandard hfits hclient (hpass hclient)

def fallbackClient : VideoClientCapability := ⟨false, 3840, 2160, 60⟩

def hdr10Master : VideoStreamDescriptor := ⟨3840, 2160, 60, .hdr10, .bt2020, .pq, 10⟩

theorem deliverable_iff_hdr10
    : Deliverable hdr10Master fallbackClient
        ↔
      (hdr10Master.Fits fallbackClient → fallbackClient.supportsHdr10 = false
        → hdr10Master.dynamicRange = .sdr → hdr10Master.IsStandard) :=
  deliverable_iff (show hdr10Master.validate = .ok () from rfl)

/--
A master that says it is of standard range and is encoded for HDR is valid, and goes to a client
without HDR as it is.
-/
theorem deliverable_fails
    : (⟨1920, 1080, 24, .sdr, .bt2020, .pq, 10⟩ : VideoStreamDescriptor).validate = .ok ()
        ∧ ¬ Deliverable ⟨1920, 1080, 24, .sdr, .bt2020, .pq, 10⟩ fallbackClient := by
  refine ⟨rfl, ?_⟩
  intro h
  have hstandard := (h.delivers _ rfl).standard rfl
  exact absurd hstandard.2.1 (by decide)

end MotionStage
