/-!
# Powers of integers

The bounds of machine integers are powers of two.  They are the powers of the core library
in every module, also where the powers of Mathlib's monoids are in scope.
-/

attribute [instance (2000), default_instance 20000] instPowNat
