import RetirementPlanner.Lib.Refill
import RetirementPlanner.Proof.Operations

/-!
# The block bootstrap

A generator of the block bootstrap is a refilled reader of blocks of the history
(`next_ofReader`): its stream is the blocks that start at the indices drawn, one after
another, wrapped around the end of the table, and each block is used up before the next
one is sampled (`blockBootstrap_stream`). Any sequence of indices can be drawn
(`startIndex_scripted`).
-/

namespace RetirementPlanner.Engine

open Operations Refill

variable {K : Type*} [Field K] [LinearOrder K]

/-! ## Blocks of the history -/

/-- Consecutive years of the table from a start, wrapped around its end. -/
def historicalBlock (start : Fin historicalReturns.length) (blockSize : ℕ) : List (K × K) :=
  (List.range (min blockSize historicalReturns.length)).map fun offset =>
    (historicalReturns.get ⟨(start + offset) % historicalReturns.length,
      Nat.mod_lt _ length_historicalReturns_pos⟩).sample

omit [LinearOrder K] in
theorem length_historicalBlock (start : Fin historicalReturns.length) (blockSize : ℕ) :
    (historicalBlock start blockSize : List (K × K)).length
      = min blockSize historicalReturns.length := by
  rw [historicalBlock, List.length_map, List.length_range]

section Source

variable (source : RandomSource K)

/-- The generator of random numbers once `count` indices have been drawn. -/
def rngAfter (rng : source.Rng) : ℕ → source.Rng
  | 0 => rng
  | count + 1 => (source.genRange (rngAfter rng count)).2

/-- The index drawn after `count` others. -/
def startIndex (rng : source.Rng) (count : ℕ) : Fin historicalReturns.length :=
  (source.genRange (rngAfter source rng count)).1

/-- No lookup of a sampled block is past the end of the table. -/
theorem sampleBlock_eq (rng : source.Rng) (blockSize : ℕ) :
    sampleBlock source rng blockSize
      = (historicalBlock (source.genRange rng).1 blockSize, (source.genRange rng).2) := by
  refine Prod.ext ?_ rfl
  refine (List.filterMap_congr fun offset _ => ?_).trans (congrFun List.filterMap_eq_map _)
  rw [List.getElem?_eq_getElem (Nat.mod_lt _ length_historicalReturns_pos)]
  rfl

/-- A source whose generators of random numbers draw the given indices. -/
def scriptedSource [IsStrictOrderedRing K] (starts : ℕ → Fin historicalReturns.length) :
    RandomSource K where
  Rng := ℕ
  seedFromU64 _ := 0
  genRange drawn := (starts drawn, drawn + 1)
  gen _ := Uniform.zero
  parametricReturns drawn := (none, drawn)

theorem startIndex_scripted [IsStrictOrderedRing K] (starts : ℕ → Fin historicalReturns.length)
    (seed count : ℕ) :
    startIndex (scriptedSource starts : RandomSource K) ((scriptedSource starts).seedFromU64 seed)
      count = starts count := by
  have hrng : rngAfter (scriptedSource starts : RandomSource K)
      ((scriptedSource starts).seedFromU64 seed) count = count := by
    induction count with
    | zero => rfl
    | succ count ih => rw [rngAfter, ih]; rfl
  rw [startIndex, hrng]
  rfl

end Source

/-! ## The generator as a reader -/

namespace MarketReturnsGenerator

variable (source : RandomSource K)

/-- The generator once `draws` returns have been taken. -/
def after (generator : MarketReturnsGenerator source) : ℕ → MarketReturnsGenerator source
  | 0 => generator
  | draws + 1 => ((after generator draws).next source).2

/-- The returns of the next `years` years. -/
def stream (generator : MarketReturnsGenerator source) (years : ℕ) : List (K × K) :=
  (List.range years).map fun year => ((generator.after source year).next source).1

/-- The generator of the block bootstrap that a reader stands for. -/
def ofReader (blockSize : ℕ) (reader : Reader source.Rng (K × K)) :
    MarketReturnsGenerator source :=
  .blockBootstrap reader.source blockSize reader.block reader.index

end MarketReturnsGenerator

open MarketReturnsGenerator

section Reader

variable (source : RandomSource K)

/-- A block of the given size, as a reader samples it. -/
def blockSampler (blockSize : ℕ) (rng : source.Rng) : List (K × K) × source.Rng :=
  sampleBlock source rng blockSize

theorem next_ofReader (blockSize : ℕ) (reader : Reader source.Rng (K × K)) :
    (ofReader source blockSize reader).next source
      = Prod.map id (ofReader source blockSize)
          (reader.next (blockSampler source blockSize) (0, 0)) := by
  rw [ofReader, MarketReturnsGenerator.next, Reader.next]
  split <;> rfl

theorem after_ofReader (blockSize : ℕ) (reader : Reader source.Rng (K × K)) (draws : ℕ) :
    (ofReader source blockSize reader).after source draws
      = ofReader source blockSize (reader.after (blockSampler source blockSize) (0, 0) draws) := by
  induction draws with
  | zero => rfl
  | succ draws ih => rw [after, ih, next_ofReader]; rfl

theorem stream_ofReader (blockSize : ℕ) (reader : Reader source.Rng (K × K)) (years : ℕ) :
    (ofReader source blockSize reader).stream source years
      = reader.read (blockSampler source blockSize) (0, 0) years :=
  List.map_congr_left fun year _ => by rw [after_ofReader, next_ofReader]; rfl

theorem newBlockBootstrap_eq (seed blockSize : ℕ) :
    newBlockBootstrap source seed blockSize
      = ofReader source blockSize
          (Reader.start (blockSampler source blockSize) (source.seedFromU64 seed)) := rfl

/-- A projection over the history with block sampling takes its returns from the stream. -/
theorem marketReturns_eq_stream {plan : RetirementPlan K} {config : ProjectionConfig}
    (hmodel : plan.assumptions.simulationModel = .historical)
    (hbootstrap : config.useHistoricalBootstrap = true) (years : ℕ) :
    (List.range years).map (marketReturns source plan config)
      = (newBlockBootstrap source config.seed config.blockSize).stream source years := by
  have hcreate : createMarketReturnsGenerator source plan config
      = newBlockBootstrap source config.seed config.blockSize := by
    rw [createMarketReturnsGenerator, hmodel]
    exact if_pos hbootstrap
  have hafter : ∀ year, generatorAt source plan config year
      = (newBlockBootstrap source config.seed config.blockSize).after source year := by
    intro year
    induction year with
    | zero => exact hcreate
    | succ year ih => rw [generatorAt, ih, after]
  exact List.map_congr_left fun year _ => by rw [marketReturns, hafter]

variable {source} {blockSize : ℕ}

theorem sourceAfter_blockSampler (rng : source.Rng) (count : ℕ) :
    sourceAfter (blockSampler source blockSize) rng count = rngAfter source rng count := by
  induction count with
  | zero => rfl
  | succ count ih => rw [sourceAfter, ih]; rfl

theorem block_blockSampler (rng : source.Rng) (count : ℕ) :
    Refill.block (blockSampler source blockSize) rng count
      = historicalBlock (startIndex source rng count) blockSize := by
  rw [Refill.block, sourceAfter_blockSampler, blockSampler, sampleBlock_eq]
  rfl

theorem length_blocks_blockSampler (rng : source.Rng) (count : ℕ) :
    (blocks (blockSampler source blockSize) rng count).length
      = count * min blockSize historicalReturns.length := by
  induction count with
  | zero => rw [Nat.zero_mul]; rfl
  | succ count ih =>
    rw [length_blocks_succ, ih, block_blockSampler, length_historicalBlock, Nat.succ_mul]

theorem blockSampler_ne_nil (h : 1 ≤ blockSize) (rng : source.Rng) :
    (blockSampler source blockSize rng).1 ≠ [] := by
  refine List.ne_nil_of_length_pos ?_
  rw [blockSampler, length_sampleBlock]
  exact lt_min h length_historicalReturns_pos

/-- The stream is the blocks at the indices drawn, as many as it takes. -/
theorem stream_newBlockBootstrap (hblock : 1 ≤ blockSize) (seed : ℕ) {years count : ℕ}
    (h : years ≤ count * min blockSize historicalReturns.length) :
    (newBlockBootstrap source seed blockSize).stream source years
      = ((List.range count).flatMap fun drawn => historicalBlock
          (startIndex source (source.seedFromU64 seed) drawn) blockSize).take years := by
  have hlength : (blocks (blockSampler source blockSize) (source.seedFromU64 seed) count).length
      = count * min blockSize historicalReturns.length := length_blocks_blockSampler _ count
  rw [newBlockBootstrap_eq, stream_ofReader,
    read_eq_take _ (blockSampler_ne_nil hblock) _ (h.trans_eq hlength.symm), blocks]
  exact congrArg (List.take years) (List.flatMap_congr fun drawn _ => block_blockSampler _ drawn)

/-- Up to the last year of a block the generator holds that block, and no later index is drawn. -/
theorem after_newBlockBootstrap (hblock : 1 ≤ blockSize) (seed count : ℕ) {index : ℕ}
    (hpos : 1 ≤ index) (hindex : index ≤ min blockSize historicalReturns.length) :
    (newBlockBootstrap source seed blockSize).after source
        (count * min blockSize historicalReturns.length + index)
      = .blockBootstrap (rngAfter source (source.seedFromU64 seed) (count + 1)) blockSize
          (historicalBlock (startIndex source (source.seedFromU64 seed) count) blockSize)
          index := by
  obtain ⟨taken, rfl⟩ := Nat.exists_eq_add_one.mpr hpos
  have hlt : taken < (Refill.block (blockSampler source blockSize)
      (source.seedFromU64 seed) count).length := by
    rw [block_blockSampler, length_historicalBlock]
    exact hindex
  have hafter := after_start (0, 0) (blockSampler_ne_nil hblock) (source.seedFromU64 seed) count hlt
  rw [length_blocks_blockSampler] at hafter
  rw [newBlockBootstrap_eq, after_ofReader, hafter, Reader.within, ofReader,
    sourceAfter_blockSampler, block_blockSampler]

theorem after_valid (hblock : 1 ≤ blockSize) (seed draws : ℕ) :
    ((newBlockBootstrap source seed blockSize).after source draws).Valid := by
  induction draws with
  | zero => exact hblock
  | succ draws ih => exact next_valid ih

end Reader

/-- For every block size and every sequence of indices drawn, the stream of the block bootstrap is
the blocks of the history that start there, one after another; until a block's last year is taken
the generator holds it and has drawn no later index; and no index is out of range. -/
theorem blockBootstrap_stream [IsStrictOrderedRing K] (source : RandomSource K) {blockSize : ℕ}
    (hblock : 1 ≤ blockSize) (seed : ℕ) {starts : ℕ → Fin historicalReturns.length}
    (hstarts : ∀ count, startIndex source (source.seedFromU64 seed) count = starts count) :
    (∀ years count, years ≤ count * min blockSize historicalReturns.length →
      (newBlockBootstrap source seed blockSize).stream source years
        = ((List.range count).flatMap fun drawn =>
            historicalBlock (starts drawn) blockSize).take years) ∧
      (∀ count index, 1 ≤ index → index ≤ min blockSize historicalReturns.length →
        (newBlockBootstrap source seed blockSize).after source
            (count * min blockSize historicalReturns.length + index)
          = .blockBootstrap (rngAfter source (source.seedFromU64 seed) (count + 1)) blockSize
              (historicalBlock (starts count) blockSize) index) ∧
      Safe (sampleBlockOperations source (source.seedFromU64 seed) blockSize) ∧
      ∀ draws, Safe (((newBlockBootstrap source seed blockSize).after source
        draws).nextOperations source) := by
  obtain rfl : startIndex source (source.seedFromU64 seed) = starts := funext hstarts
  refine ⟨fun years count hyears => ?_, fun count index hpos hindex => ?_, ?_, fun draws => ?_⟩
  · exact stream_newBlockBootstrap hblock seed hyears
  · exact after_newBlockBootstrap hblock seed count hpos hindex
  · exact sampleBlockOperations_safe source _ _
  · exact nextOperations_safe (after_valid hblock seed draws)

/-- The last year but one of the table, then a year in its middle. -/
def wrappingStarts : ℕ → Fin historicalReturns.length
  | 0 => ⟨96, by decide⟩
  | _ => ⟨40, by decide⟩

/-- Seven years from blocks of five: the first wraps around the end of the table, the second is
cut short. -/
theorem blockBootstrap_stream_wrapping :
    (newBlockBootstrap (scriptedSource wrappingStarts : RandomSource ℚ) 42 5).stream _ 7
      = [96, 97, 0, 1, 2, 40, 41].filterMap fun index =>
          historicalReturns[index]?.map AnnualMarketReturn.sample :=
  (blockBootstrap_stream _ (by decide : 1 ≤ 5) 42 (startIndex_scripted wrappingStarts 42)).1
    7 2 (by decide)

end RetirementPlanner.Engine
