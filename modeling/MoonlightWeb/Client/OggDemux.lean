import Mathlib.Data.List.GetD
import MoonlightWeb.Lib.Incremental

/-! The page demuxer that takes the Ogg framing off the audio stream. The streamer
writes every packet as a page of its own; the messages that carry the pages are
cut anywhere. -/
namespace MoonlightWeb.Client
open MoonlightWeb.Incremental

abbrev Bytes := List UInt8

/-- "OggS" -/
def CAPTURE_PATTERN : Bytes := [0x4f, 0x67, 0x67, 0x53]

def hasCapturePattern (buf : Bytes) (offset : Nat) : Bool :=
  (buf.drop offset).take 4 == CAPTURE_PATTERN

def findCapturePattern (buf : Bytes) : Option Nat :=
  (List.range (buf.length - 3)).find? fun i => hasCapturePattern buf i

def magicEquals (packet : Bytes) (magic : Bytes) : Bool :=
  if packet.length < magic.length then false else packet.take magic.length == magic

def OPUS_HEAD : Bytes := [0x4f, 0x70, 0x75, 0x73, 0x48, 0x65, 0x61, 0x64]

def OPUS_TAGS : Bytes := [0x4f, 0x70, 0x75, 0x73, 0x54, 0x61, 0x67, 0x73]

/-- One of the two header packets, which carry no audio. -/
def isOpusHeaderPacket (packet : Bytes) : Bool :=
  magicEquals packet OPUS_HEAD || magicEquals packet OPUS_TAGS

def subarray (data : Bytes) (first last : Nat) : Bytes := (data.take last).drop first

/-- The packets of a page body: segments of 255 bytes go on, a shorter one ends
its packet. A packet that goes on behind the page is dropped. -/
def splitPackets (data : Bytes) : List Nat → Nat → Nat → List Bytes
  | [], _, _ => []
  | segSize :: segments, packetStart, offset =>
    if segSize < 255 then
      if packetStart < offset + segSize then
        subarray data packetStart (offset + segSize) ::
          splitPackets data segments (offset + segSize) (offset + segSize)
      else splitPackets data segments (offset + segSize) (offset + segSize)
    else splitPackets data segments packetStart (offset + segSize)

def segmentTable (data : Bytes) : List Nat :=
  ((data.drop 27).take (data.getD 26 0).toNat).map UInt8.toNat

def payloadLen : List Nat → Nat
  | [] => 0
  | segSize :: segments => segSize + payloadLen segments

/-- The packets of a complete page at the front, and the page's length. -/
def readPage (data : Bytes) : Option (List Bytes × Nat) :=
  if data.length < 27 then none
  else
    let headerLen := 27 + (data.getD 26 0).toNat
    if data.length < headerLen then none
    else
      let pageLen := headerLen + payloadLen (segmentTable data)
      if data.length < pageLen then none
      else some (splitPackets data (segmentTable data) headerLen headerLen, pageLen)

namespace OggPageDemuxer

/-- A buffer without a page at its front is cut back to the next capture pattern,
or to the bytes that may still begin one. -/
def resync (data : Bytes) : Bytes :=
  if 4 ≤ data.length ∧ hasCapturePattern data 0 = false then
    match findCapturePattern data with
    | some found => data.drop found
    | none => data.drop (data.length - 3)
  else data

/-- The packets of the page at the front, if it is complete, and the buffer. -/
def tryParsePage (buffer : Bytes) : Option (List Bytes) × Bytes :=
  let data := resync buffer
  match readPage data with
  | some (packets, pageLen) => (some packets, data.drop pageLen)
  | none => (none, data)

def parsePages : Nat → Bytes → List Bytes × Bytes
  | 0, buffer => ([], buffer)
  | limit + 1, buffer =>
    match tryParsePage buffer with
    | (none, buffer) => ([], buffer)
    | (some pagePackets, buffer) =>
      let later := parsePages limit buffer
      (pagePackets ++ later.1, later.2)

/-- The packets that a chunk completes, and the buffer. Every page takes at least
a byte, so the loop ends within the length of the buffer. -/
def push (buffer chunk : Bytes) : List Bytes × Bytes :=
  parsePages ((buffer ++ chunk).length + 1) (buffer ++ chunk)

/-- The buffer is handed over and cleared. -/
def takeBuffered (buffer : Bytes) : Bytes × Bytes := (buffer, [])

/-! ## The stream as a whole -/

/-- The demuxer in single steps: a byte that begins no page is skipped, or the
page at the front is read. -/
def nextPage : Parser UInt8 Bytes := fun data =>
  if 4 ≤ data.length ∧ hasCapturePattern data 0 = false then some ([], data.drop 1)
  else (readPage data).map fun page => (page.1, data.drop page.2)

theorem hasCapturePattern_drop (data : Bytes) (skipped : Nat) :
    hasCapturePattern (data.drop skipped) 0 = hasCapturePattern data skipped := by
  rw [hasCapturePattern, List.drop_zero, hasCapturePattern]

theorem hasCapturePattern_append {data : Bytes} (enough : 4 ≤ data.length) (more : Bytes) :
    hasCapturePattern (data ++ more) 0 = hasCapturePattern data 0 := by
  simp only [hasCapturePattern, List.drop_zero, List.take_append_of_le_length enough]

theorem splitPackets_append (data more : Bytes) (segments : List Nat) (packetStart offset : Nat)
    (inside : offset + payloadLen segments ≤ data.length) :
    splitPackets (data ++ more) segments packetStart offset =
      splitPackets data segments packetStart offset := by
  induction segments generalizing packetStart offset with
  | nil => rfl
  | cons segSize rest ih =>
    rw [payloadLen] at inside
    have part : subarray (data ++ more) packetStart (offset + segSize) =
        subarray data packetStart (offset + segSize) := by
      rw [subarray, subarray, List.take_append_of_le_length (by omega)]
    simp only [splitPackets, part]
    rw [ih packetStart (offset + segSize) (by omega),
      ih (offset + segSize) (offset + segSize) (by omega)]

theorem segmentTable_append {data : Bytes}
    (header : 27 + (data.getD 26 0).toNat ≤ data.length) (more : Bytes) :
    segmentTable (data ++ more) = segmentTable data := by
  have count : (data ++ more).getD 26 0 = data.getD 26 0 :=
    List.getD_append data more 0 26 (by omega)
  rw [segmentTable, segmentTable, count, List.drop_append_of_le_length (by omega),
    List.take_append_of_le_length (by rw [List.length_drop]; omega)]

theorem readPage_eq_some {data : Bytes} :
    readPage data = some (packets, pageLen) ↔
      27 + (data.getD 26 0).toNat + payloadLen (segmentTable data) = pageLen ∧ 27 ≤ data.length ∧
        pageLen ≤ data.length ∧
        packets = splitPackets data (segmentTable data) (27 + (data.getD 26 0).toNat)
          (27 + (data.getD 26 0).toNat) := by
  unfold readPage
  dsimp only
  constructor
  · intro parsed
    split at parsed
    · cases parsed
    · split at parsed
      · cases parsed
      · split at parsed
        · cases parsed
        · cases parsed
          exact ⟨rfl, by omega, by omega, rfl⟩
  · rintro ⟨rfl, header, whole, rfl⟩
    rw [if_neg (by omega), if_neg (by omega), if_neg (by omega)]

theorem readPage_append {data : Bytes} (parsed : readPage data = some (packets, pageLen))
    (more : Bytes) : readPage (data ++ more) = some (packets, pageLen) := by
  obtain ⟨length, header, whole, rfl⟩ := readPage_eq_some.mp parsed
  have count : (data ++ more).getD 26 0 = data.getD 26 0 :=
    List.getD_append data more 0 26 (by omega)
  have table := segmentTable_append (by omega : 27 + (data.getD 26 0).toNat ≤ data.length) more
  apply readPage_eq_some.mpr
  rw [count, table, List.length_append]
  refine ⟨length, by omega, by omega, ?_⟩
  rw [splitPackets_append _ _ _ _ _ (by omega)]

theorem nextPage_steady : Steady nextPage where
  shorter := by
    intro data items rest taken
    unfold nextPage at taken
    split at taken
    · rename_i lost
      cases taken
      rw [List.length_drop]
      omega
    · obtain ⟨⟨packets, pageLen⟩, parsed, same⟩ := Option.map_eq_some_iff.mp taken
      cases same
      obtain ⟨length, header, whole, -⟩ := readPage_eq_some.mp parsed
      rw [List.length_drop]
      omega
  stable := by
    intro data items rest taken more
    unfold nextPage at taken ⊢
    split at taken
    · rename_i lost
      cases taken
      have still : 4 ≤ (data ++ more).length ∧ hasCapturePattern (data ++ more) 0 = false := by
        rw [hasCapturePattern_append lost.1, List.length_append]
        exact ⟨by omega, lost.2⟩
      rw [if_pos still, List.drop_append_of_le_length (by omega)]
    · rename_i found
      obtain ⟨⟨packets, pageLen⟩, parsed, same⟩ := Option.map_eq_some_iff.mp taken
      cases same
      obtain ⟨length, header, whole, -⟩ := readPage_eq_some.mp parsed
      rw [hasCapturePattern_append (by omega)]
      have still : ¬ (4 ≤ (data ++ more).length ∧ hasCapturePattern data 0 = false) := by
        rintro ⟨-, lost⟩
        exact found ⟨by omega, lost⟩
      rw [if_neg still, readPage_append parsed, Option.map_some,
        List.drop_append_of_le_length (by omega)]

/-- Bytes that begin no page are skipped one by one. -/
theorem drains_skip (data : Bytes) (skipped : Nat)
    (lost : ∀ i < skipped, i + 4 ≤ data.length ∧ hasCapturePattern data i = false)
    (drains : Drains nextPage (data.drop skipped) packets left) :
    Drains nextPage data packets left := by
  induction skipped generalizing data with
  | zero => exact drains
  | succ skipped ih =>
    obtain ⟨enough, none⟩ := lost 0 (by omega)
    have skip : nextPage data = some ([], data.drop 1) := if_pos ⟨by omega, none⟩
    refine .step skip (ih (data.drop 1) (fun i before => ?_) ?_)
    · have later := lost (i + 1) (by omega)
      have same : hasCapturePattern (data.drop 1) i = hasCapturePattern data (i + 1) := by
        rw [hasCapturePattern, List.drop_drop, Nat.add_comm, hasCapturePattern]
      rw [same, List.length_drop]
      exact ⟨by omega, later.2⟩
    · rw [List.drop_drop, Nat.add_comm]
      exact drains

theorem resync_drains {data : Bytes} (drains : Drains nextPage (resync data) packets left) :
    Drains nextPage data packets left := by
  unfold resync at drains
  split at drains
  · split at drains
    · rename_i found isFirst
      unfold findCapturePattern at isFirst
      obtain ⟨-, member, before⟩ := List.find?_range_eq_some.mp isFirst
      rw [List.mem_range] at member
      refine drains_skip data found (fun i earlier => ⟨by omega, ?_⟩) drains
      simpa using before i earlier
    · rename_i nowhere
      unfold findCapturePattern at nowhere
      refine drains_skip data (data.length - 3) (fun i earlier => ⟨by omega, ?_⟩) drains
      simpa using List.find?_range_eq_none.mp nowhere i earlier
  · exact drains

theorem resync_length_le (data : Bytes) : (resync data).length ≤ data.length := by
  unfold resync
  split
  · split
    · rw [List.length_drop]
      omega
    · rw [List.length_drop]
      omega
  · exact Nat.le_refl _

/-- Where a resynchronised buffer is long enough to tell, a page begins. -/
theorem resync_found (data : Bytes) :
    ¬ (4 ≤ (resync data).length ∧ hasCapturePattern (resync data) 0 = false) := by
  unfold resync
  split
  · split
    · rename_i found isFirst
      unfold findCapturePattern at isFirst
      rintro ⟨-, lost⟩
      rw [hasCapturePattern_drop, (List.find?_range_eq_some.mp isFirst).1] at lost
      cases lost
    · rw [List.length_drop]
      omega
  · assumption

theorem parsePages_drains (limit : Nat) (buffer : Bytes) (enough : buffer.length < limit) :
    Drains nextPage buffer (parsePages limit buffer).1 (parsePages limit buffer).2 := by
  induction limit generalizing buffer with
  | zero => omega
  | succ limit ih =>
    apply resync_drains
    have shorter := resync_length_le buffer
    have stops := resync_found buffer
    cases parsed : readPage (resync buffer) with
    | none =>
      have waits : nextPage (resync buffer) = none := by
        rw [nextPage, if_neg stops, parsed, Option.map_none]
      simp only [parsePages, tryParsePage, parsed]
      exact .waits waits
    | some page =>
      obtain ⟨packets, pageLen⟩ := page
      have taken : nextPage (resync buffer) =
          some (packets, (resync buffer).drop pageLen) := by
        rw [nextPage, if_neg stops, parsed, Option.map_some]
      have less := nextPage_steady.shorter _ _ _ taken
      simp only [parsePages, tryParsePage, parsed]
      exact .step taken (ih _ (by omega))

theorem push_drains (buffer chunk : Bytes) :
    Drains nextPage (buffer ++ chunk) (push buffer chunk).1 (push buffer chunk).2 :=
  parsePages_drains _ _ (Nat.lt_succ_self _)

/-- What a stream demuxes to, and the bytes that wait behind the last page. -/
def demux (stream : Bytes) : List Bytes × Bytes := push [] stream

theorem demux_drains (stream : Bytes) :
    Drains nextPage stream (demux stream).1 (demux stream).2 := push_drains [] stream

/-- What was read of the first part, and then what the second part completes. -/
theorem demux_append (first second : Bytes) :
    demux (first ++ second) = ((demux first).1 ++ (demux ((demux first).2 ++ second)).1,
      (demux ((demux first).2 ++ second)).2) := by
  have read := (demux_drains first).append nextPage_steady
    (demux_drains ((demux first).2 ++ second))
  obtain ⟨packets, left⟩ := (demux_drains (first ++ second)).unique read
  exact Prod.ext packets left

/-- What waits behind the last page has nothing to read in it. -/
theorem demux_left (stream : Bytes) : demux (demux stream).2 = ([], (demux stream).2) := by
  have waits := Drains.waits (demux_drains stream).left_waits
  obtain ⟨packets, left⟩ := (demux_drains (demux stream).2).unique waits
  exact Prod.ext packets left

/-- Chunk by chunk, the demuxer reads what it reads of the stream in one piece. -/
theorem feed_eq_demux (chunks : List Bytes) : feed push [] chunks = demux chunks.flatten := by
  have fed := feed_drains nextPage_steady push_drains chunks (rfl : nextPage [] = none)
  obtain ⟨packets, left⟩ := fed.unique (demux_drains chunks.flatten)
  exact Prod.ext packets left

/-! ## Pages with one packet each -/

def lacing (length : Nat) : List Nat := List.replicate (length / 255) 255 ++ [length % 255]

/-- An Ogg page that holds one whole packet. Its version, flags, granule position,
serial and sequence numbers and checksum may be any. -/
def IsPageOf (page packet : Bytes) : Prop :=
  ∃ fields : Bytes, fields.length = 22 ∧
    page = CAPTURE_PATTERN ++ fields ++ UInt8.ofNat (lacing packet.length).length ::
      (lacing packet.length).map UInt8.ofNat ++ packet

theorem length_lacing (length : Nat) : (lacing length).length = length / 255 + 1 := by
  rw [lacing, List.length_append, List.length_replicate, List.length_singleton]

theorem payloadLen_full (full last : Nat) :
    payloadLen (List.replicate full 255 ++ [last]) = full * 255 + last := by
  induction full with
  | zero => rw [List.replicate_zero, List.nil_append, payloadLen, payloadLen, Nat.zero_mul]; omega
  | succ full ih =>
    rw [List.replicate_succ, List.cons_append, payloadLen, ih]
    omega

theorem payloadLen_lacing (length : Nat) : payloadLen (lacing length) = length := by
  rw [lacing, payloadLen_full]
  exact Nat.div_add_mod' length 255

theorem lacing_restored (length : Nat) :
    ((lacing length).map UInt8.ofNat).map UInt8.toNat = lacing length := by
  rw [List.map_map]
  refine (List.map_congr_left fun segment member => ?_).trans (List.map_id _)
  have small : segment ≤ 255 := by
    rcases List.mem_append.mp member with full | last
    · exact Nat.le_of_eq (List.eq_of_mem_replicate full)
    · rw [List.mem_singleton.mp last]
      omega
  rw [Function.comp_apply, UInt8.toNat_ofNat', id, Nat.mod_eq_of_lt (by omega)]

/-- The segments of one packet give that packet back. -/
theorem splitPackets_lacing (data : Bytes) (full last packetStart offset : Nat) (short : last < 255)
    (filled : packetStart < offset + full * 255 + last) :
    splitPackets data (List.replicate full 255 ++ [last]) packetStart offset =
      [subarray data packetStart (offset + full * 255 + last)] := by
  induction full generalizing offset with
  | zero =>
    rw [Nat.zero_mul, Nat.add_zero] at filled ⊢
    simp only [List.replicate_zero, List.nil_append, splitPackets, if_pos short, if_pos filled]
  | succ full ih =>
    have same : offset + 255 + full * 255 + last = offset + (full + 1) * 255 + last := by omega
    rw [List.replicate_succ, List.cons_append, splitPackets, if_neg (by omega),
      ih (offset + 255) (by omega), same]

theorem readPage_page (isPage : IsPageOf page packet) (filled : packet ≠ [])
    (fits : packet.length ≤ 65024) (rest : Bytes) :
    readPage (page ++ rest) = some ([packet], page.length) := by
  obtain ⟨fields, width, rfl⟩ := isPage
  have count := length_lacing packet.length
  have positive := List.length_pos_iff.mpr filled
  let table := (lacing packet.length).map UInt8.ofNat
  let before := CAPTURE_PATTERN ++ fields
  have start : before.length = 26 := by
    rw [List.length_append, width]
    rfl
  have tableLength : table.length = packet.length / 255 + 1 := by rw [List.length_map, count]
  let data := before ++ (UInt8.ofNat (lacing packet.length).length :: (table ++ (packet ++ rest)))
  have whole : CAPTURE_PATTERN ++ fields ++ UInt8.ofNat (lacing packet.length).length ::
      (lacing packet.length).map UInt8.ofNat ++ packet ++ rest = data := by
    simp only [data, before, table, List.append_assoc, List.cons_append]
  have segmentCount : (data.getD 26 0).toNat = packet.length / 255 + 1 := by
    rw [List.getD_append_right _ _ _ _ (Nat.le_of_eq start), start, count]
    change (UInt8.ofNat (packet.length / 255 + 1)).toNat = _
    rw [UInt8.toNat_ofNat', Nat.mod_eq_of_lt (by omega)]
  have behind : data.drop 27 = table ++ (packet ++ rest) := by
    have split : data = (before ++ [UInt8.ofNat (lacing packet.length).length]) ++
        (table ++ (packet ++ rest)) := by simp only [data, List.append_assoc, List.singleton_append]
    rw [split, List.drop_left' (by rw [List.length_append, start]; rfl)]
  have segments : segmentTable data = lacing packet.length := by
    rw [segmentTable, segmentCount, behind, List.take_left' tableLength]
    exact lacing_restored packet.length
  have body : data.drop (27 + (packet.length / 255 + 1)) = packet ++ rest := by
    rw [← List.drop_drop, behind, List.drop_left' tableLength]
  have size : data.length = 27 + (packet.length / 255 + 1) + packet.length + rest.length := by
    simp only [data, List.length_append, List.length_cons, start, tableLength]
    omega
  have pageLength : (CAPTURE_PATTERN ++ fields ++ UInt8.ofNat (lacing packet.length).length ::
      (lacing packet.length).map UInt8.ofNat ++ packet).length =
        27 + (packet.length / 255 + 1) + packet.length := by
    have fields := start
    simp only [before] at fields
    simp only [List.length_append, List.length_cons, List.length_map, count] at fields ⊢
    omega
  rw [whole, pageLength]
  apply readPage_eq_some.mpr
  rw [segmentCount, segments, payloadLen_lacing]
  refine ⟨rfl, by omega, by omega, ?_⟩
  rw [lacing, splitPackets_lacing _ _ _ _ _ (Nat.mod_lt _ (by omega)) (by omega), subarray,
    Nat.add_assoc _ (packet.length / 255 * 255), Nat.div_add_mod', List.drop_take,
    Nat.add_sub_cancel_left, body, List.take_left']
  rfl

theorem nextPage_page (isPage : IsPageOf page packet) (filled : packet ≠ [])
    (fits : packet.length ≤ 65024) (rest : Bytes) :
    nextPage (page ++ rest) = some ([packet], rest) := by
  have parsed := readPage_page isPage filled fits rest
  obtain ⟨fields, width, rfl⟩ := isPage
  have begins : hasCapturePattern (CAPTURE_PATTERN ++ fields ++
      UInt8.ofNat (lacing packet.length).length :: (lacing packet.length).map UInt8.ofNat ++
        packet ++ rest) 0 = true := rfl
  rw [nextPage, begins, if_neg (by simp), parsed, Option.map_some, List.drop_left' rfl]

theorem pages_drain (written : List.Forall₂ IsPageOf pages packets)
    (sizes : ∀ packet ∈ packets, 1 ≤ packet.length ∧ packet.length ≤ 65024) :
    Drains nextPage pages.flatten packets [] := by
  induction written with
  | nil => exact .waits rfl
  | @cons page packet pages packets isPage written ih =>
    obtain ⟨filled, fits⟩ := sizes packet (by simp)
    have taken := nextPage_page isPage (List.length_pos_iff.mp filled) fits pages.flatten
    rw [List.flatten_cons]
    exact .step taken (ih fun other member => sizes other (List.mem_cons_of_mem _ member))

/-- Packets that were written as pages of their own come out as they went in,
however the stream was cut; and for any stream, the loop over the pages ends with
nothing left that could be read, and the cuts do not matter. -/
theorem ogg_demuxed :
    (∀ (packets pages chunks : List Bytes), List.Forall₂ IsPageOf pages packets →
      (∀ packet ∈ packets, 1 ≤ packet.length ∧ packet.length ≤ 65024) →
      chunks.flatten = pages.flatten → (feed push [] chunks).1 = packets) ∧
    (∀ (buffer chunk : Bytes) (limit : Nat), (buffer ++ chunk).length < limit →
      parsePages limit (buffer ++ chunk) = push buffer chunk ∧
        nextPage (push buffer chunk).2 = none) ∧
    ∀ chunks others : List Bytes, chunks.flatten = others.flatten →
      feed push [] chunks = feed push [] others := by
  refine ⟨?_, ?_, ?_⟩
  · intro packets pages chunks written sizes cut
    rw [feed_eq_demux, cut]
    exact ((demux_drains pages.flatten).unique (pages_drain written sizes)).1
  · intro buffer chunk limit enough
    obtain ⟨packets, left⟩ :=
      (parsePages_drains limit (buffer ++ chunk) enough).unique (push_drains buffer chunk)
    exact ⟨Prod.ext packets left, (push_drains buffer chunk).left_waits⟩
  · intro chunks others cut
    rw [feed_eq_demux, feed_eq_demux, cut]

/-- A page that arrives in two pieces, the first of them shorter than its header. -/
theorem split_page_demuxed :
    (feed push [] [CAPTURE_PATTERN ++ List.replicate 20 0, [0, 0, 1, 3, 7, 8, 9]]).1 =
      [[7, 8, 9]] := by
  refine ogg_demuxed.1 [[7, 8, 9]] [CAPTURE_PATTERN ++ List.replicate 22 0 ++ [1, 3, 7, 8, 9]] _
    ?_ (by simp) rfl
  exact .cons ⟨List.replicate 22 0, rfl, rfl⟩ .nil

end OggPageDemuxer

end MoonlightWeb.Client
