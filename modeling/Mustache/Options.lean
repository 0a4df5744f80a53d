namespace Mustache

structure Options where
  -- How deep sections and partials may nest, counted together.
  maxDepth : Nat := 64
  -- How much output to expect for each byte of source.
  capacityFactor : Nat := 2
  deriving DecidableEq, Repr

def Options.maxSize : Nat := 0xffffffffffffffff

def Options.capacityFor (options : Options) (length : Nat) : Nat :=
  min (length * options.capacityFactor) maxSize

end Mustache
