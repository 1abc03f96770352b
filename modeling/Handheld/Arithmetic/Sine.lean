import Handheld.Word

namespace Handheld

/-!
# Sine and cosine

Whole degrees in, values scaled by 1024 out. A table holds the first quarter
turn; the other three follow by symmetry. Of an angle only the low fifteen bits
count.
-/

/-- The sines of 0 to 90 degrees, scaled by 1024. -/
def Sine.quarter : Vector Nat 91 :=
  #v[0, 18, 36, 54, 71, 89, 107, 125, 143, 160, 178, 195, 213, 230, 248, 265, 282, 299, 316,
    333, 350, 367, 384, 400, 416, 433, 449, 465, 481, 496, 512, 527, 543, 558, 573, 587, 602,
    616, 630, 644, 658, 672, 685, 698, 711, 724, 737, 749, 761, 773, 784, 796, 807, 818, 828,
    839, 849, 859, 868, 878, 887, 896, 904, 912, 920, 928, 935, 943, 949, 956, 962, 968, 974,
    979, 984, 989, 994, 998, 1002, 1005, 1008, 1011, 1014, 1016, 1018, 1020, 1022, 1023, 1023,
    1024, 1024]

/-- The table value for an angle, which is at most 90 where it is used. -/
def Sine.entry (degrees : Nat) : Int :=
  Sine.quarter[min degrees 90]

/-- An angle in whole degrees below a full turn. -/
def Sine.degrees (angle : Word) : Nat :=
  angle.bits % 0x8000 % 360

/-- The scaled sine of an angle below a full turn. -/
def Sine.ofDegrees (degrees : Nat) : Int :=
  if degrees < 90 then
    Sine.entry degrees
  else if degrees < 180 then
    Sine.entry (180 - degrees)
  else if degrees < 270 then
    -Sine.entry (degrees - 180)
  else
    -Sine.entry (360 - degrees)

/-- The sine of an angle, scaled by 1024. -/
def sine (angle : Word) : Word :=
  Int32.ofInt (Sine.ofDegrees (Sine.degrees angle))

/-- The cosine of an angle, scaled by 1024: the sine a quarter turn later. -/
def cosine (angle : Word) : Word :=
  Int32.ofInt (Sine.ofDegrees ((Sine.degrees angle + 90) % 360))

end Handheld
