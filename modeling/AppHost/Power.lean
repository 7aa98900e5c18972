/-!
Powers with a natural exponent are those of the core library, also where a larger library that is
imported beside it has others. A power so means the same in every module.
-/

set_option autoImplicit false

attribute [default_instance 20000,
instance 20000] instPowNat
