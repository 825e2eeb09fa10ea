import BinaryCoverage.Unicode.CodeSet

/-!
# Ages

The age of a code point is the version of the standard that first assigned it.  Versions are marked
by letters in order of time; a hyphen marks code points that are not assigned.  This file defines:

* `ageMap` — the mark of every code point;
* `age?` — the mark of a version by any of its names;
* `isOfAge` — whether a character was assigned in a version or before it.
-/

namespace BinaryCoverage.Unicode

def ageMap : CodeMap := .ofText
  (String.join
    ["0AdyD4AuD8F1G1DiG3HbIeA2hD5G2A1bD1AaD5GhA1yD9F1G8H5G3A2D1FdJ4A2J2-2A1I3A1P1-4A7-1A1-1Ak-1A",
      "18J1A7D1F2A1D1A1D1A1D1A1D1AiE2F1G5H4D1AcD1A1uD1AcD1A15J1D2F2D4A1hF2A2F2A2F2I1AsD2A8H2A2I6F",
      "gI4JgK2L2P8-1A12-2A7T1A13T1A1D1-2P2M1-1BhH1BdAaI1A9B1H3-8Ar-4T1A5-bG4M1P1J5H1A1G9J5A1O1X1H",
      "1A1L1AqJ5AjD3G3H6L1AeF2A20D2A5D1AfD1AuG2AaD5G1De-1DuG3Dr-2G3HuJiD1dF1-eI1n-2T3K1a-2Kf-1Ls-",
      "2L1-1Sb-5Xv-1X2-6X8M1P1MbP6Q2X1R8WaXbT1RfQ1MrP1K1A3G1A1hL2AiK1L1A5K1L2ApJ2L5P1K2I2H1I2P1A3",
      "-1A8-2A2-2Am-1A7-1A1-3A4-2A1G1A7-2A2-2A3H1-8A1-4A2-1A5-2AlK1S2T1-2G1A1G1-1A6-4A2-2Am-1A7-1",
      "A2-1A2-1A2-2A1-1A5-4A2-2A3-3J1-7A4-1A1-7AfJ1T1-aA3-1A7G1A1-1A3-1Am-1A7-1A2-1A5-2Aa-1A3-1A3",
      "-2A1-fA1G3-2AaM1G1-7Q1S6-1A3-1A8-2A2-2Am-1A7-1A2-1G1A4-2A8J1-2A2-2A3-7W1A2-4A2-1A3J2-2AbG1",
      "L6-aA2-1A6-3A3-1A4-3A2-1A1-1A2-3A2-3A3-3A8H1A3-4A5-3A3-1A4-2J1-6A1-eH1AcG8-5P1A3T1A8-1A3-1",
      "An-1AaP1A5-2X1J1A7-1A3-1A4-7A2-1J2Q1-2X1-2A2J2-2Aa-7U1J8R1P1A2T1A8-1A3-1An-1Aa-1A5-2G2A7-1",
      "A3-1A4-7A2-6X1A1-1A2I2-2Aa-1I2Y1-cS1P1A2W1A8-1A3-1AnL1AgL1S2J1A6J1-1A3-1A4L1R1-4R3A1R7Q1A2",
      "J2-2AaJ6R3J7-1W1D2-1Di-3Do-1D9-1D1-2D7-3D1-4D6-1D1-1D8-6Pa-2D3-cA1m-4At-11A2-1A1-1U1A2U1A1",
      "-1U1A1U6A4U1A7U1A3-1A1-1A1U2A2U1AdU1A3-2A5-1A1-1A6Y1-1Aa-2A2M2-wB20-1BxD1J2-4BrL4B6D1B1-1B",
      "lD3B7D1B1D3-1Df-1J1D1H2J3K4L2-11DyJ1D5J1D2J1D7J3D4J6DqJ1sK4J2A12-1M1-5M1-2A13F2H2A1H1M3A2i",
      "K5A1wK5A2aK6D7H1D1rH1D1-1D4-2D7-1D1-1D4-2D13H1D1-1D4-2DvH1D1-1D4-2D7-1D1-1D4-2D7H1D7-1DnH1",
      "DvH1D1-1D4-2D7H1D13H1Dj-2L2H2Ds-3Hq-6D2dQ1-2Q6-2K1DhiK9Dt-3D29P8-7FdX1F7X1-9X1Fn-9Fk-cFd-1",
      "F3-1F2-cD2lG1-2Da-6Ga-6DfX1Da-6D2gT1-7D16J1-5K1y-aGtP2-1Gc-4Gc-4G1-3G16-2G5-bH16K2-4Hq-6Ha",
      "K1-3H2GwHs-2H2K1r-1Kt-2Kb-6Ka-6Ke-2PfW2Xe-1dI24X1-3I19X2-1J17M3JcM6L1g-8L4J1k-3Jf-3J1fR9-7",
      "T17-2T3M8-8KzM4S1P2U1-5G30H2gI7JsPfS4X1R1L1K1I2A4bB1J4A2iJ6Am-2A6-2A12-2A6-2A8-1A1-1A1-1A1",
      "-1Av-2A1h-1Af-1Ae-2A6-1Aj-2A3-1A9-1A1bD1AnF1D6F5G2H2F1H7F5J1-1O4A7F1-2Ar-1H5L8-3AbB1C1D3F2",
      "H4K3L1N1P3Q1S1X1-fAiD2F7H1I4J1-fA1lD2G1H1FfH1I2J1K3A1cD1I1J4K1Q2-4A2jD9FcA6qFeA1D1A3dD1F1D",
      "uF1gG2HbIcK1LbP7R4S1A11D2-pAb-lA3vFkG1A46FaA28D8F8AkG2F2H1D1A2eD2FcH2FaG8HbJ1K2G2HgI1JaK3J",
      "4KaL1KjL1K1L4KoP1A4L1A4L2AsL1AzL1A1L1A4L3A1K1A7L2A7FeAvL3AoL1AeL1H7I4M1J1M1L2FsJ4FgD74Fe8G",
      "eH6I7J5I4J15P3J5K5Pq-2Pw-1W1PyT3PcU1P8S1TpQ4TfU1H1bX1H1bX1IdJ3K1J3I4J6K2H2zK7M2-5H19-1M1-5",
      "M1-2H1iM2-7H1L1-eL1Hn-9H7-1H7-1H7-1H7-1H7-1H7-1H7-1H7-1JwHoJ4H2JjK1MaP7R2S5T5U1W3Xb-yDq-1D",
      "2h-cD5y-qDc-4A1kD3F3D1A1-1A2cF2-2A6F2A2mF1-5A14J1S1T1-1A2m-1AgDoL3W5HgJk-cFgAtG2-1A10KcG1F",
      "fAsG2H1A1eFfAcG4A1bV1A3bG4A2rG2AvG1D52uWaG1sAg4mHmJ8K8M1Q9SlT5WdX3Dwd-3DiF2DgF1DcF1D3F1D1-",
      "9K1cJ8c-kJwL2JiM8JsP6Q1M1K2g-8HnI4J5I2J2zL2Q1L2M2PcLaM1P3R1T1P2Q6T2U6X2U5W4-5X2-1X1-1X5-oX",
      "3W2P1M2L1J5H18W1-3Ka-6I1k-8J1xR1-8Jc-6KsQ2T2J2c-bJ1Kt-3K26-1Kb-4K2Pv-1J1j-9Je-2Ja-2J4KsP4K",
      "1v-oK5Mn-aL6-2L6-2L6-9L7-1L7-1P1cQ4P2U2W4-4Q28K1a-2Ka-6B8mc-cKn-4K1d-4B1kwA566M2F1nK3-2H2y",
      "-12A7-cA5-5D1Ap-1A5-1A1-1A2-1A2-1A30LgX1-gAa5XgA1s-2A1i-7X1EwAcF1G1X2FgHa-6A4J3P7Q2AlF2G2A",
      "a-1Aj-1A4-4A3F1A1-1A3r-2A1-1A2mF2A2m-3A6-2A6-2A6-2A3-3A7-1A7-aD3C1A3Gc-1Gq-1Gj-1G2-1Gf-2Ge",
      "-yG3f-5G3-4G19-3G9H23P2R2-1JcW1-3P1-1bJ1a-3mJt-3J1d-fPs-4EvP1E4-9S3Er-5P17-5Gu-1G1H10-4He-",
      "16E12G2E12G28-2Ga-6R10-4R10-4P14-8P1g-bP1Xb-1Xf-1X7-1X2-1Xb-1Xf-1X7-1X2-1vP8n-9Pm-aP8-oX6-",
      "1X16-1X9-1xG6-2G1-1G18-1G2-3G1-2G1Km-1K9P1r-8P9-1cQj-1Q2-5Q5IqK2-3I1Jq-5J1-1sM1k-4Q2M2Qg-2",
      "Q1aH4-1H2-5H8-1H3-1HrT2-2H3-4H9T1-7H9-7KwPw-wP13-4Pc-9K1i-3Kt-2Kr-5K8Pi-7P4-cP7-28K21-1jQ1",
      "f-dQ1f-7Q6T14-8Ta-86Kv-1W16-1W3-2W2-23Y3T14-8T16-mXq-12Ws-kUn-9L26-4LuX6-9P1K1uX1-aT1-2Mp-",
      "7Ma-6M1h-1MeT3W1-8P13-9M21Q4P1W2MaP1Q5-1Pk-bPi-1P17R1Y3-1qQ7-1Q1-1Q4-1Qf-1Qb-6P1n-5Pa-6Q1P",
      "3-1P8-2P2-2Pm-1P7-1P2-1P5-1T1P9-2P2-2P3-2Q1-6P1-5P7-2P7-3P5-3vR2iW1R1-1R1T1U1W2-uP20-8Pa-4",
      "mP1i-2PiQk-yP1x-bPa-6Rd-jM1kU1X1-6Ma-1iQqT1-2Qf-4QgX7-55T1o-2sP2b-cP1W7-2W1-2W8-1W2-1Wu-1W",
      "2-2Wc-9Wa-1yU8-2U1a-2Ub-rS20-8S1gU2SnT1S5-dXgP1l-7Ya-6uR9-1R19-1Re-aRt-3Rw-2Rm-1Re-21S7-1S",
      "2-1S18-3S1-1S2-1S9-8Sa-6T6-1T2-1T11-1T2-1T6-7Ta-8mTp-7Yh-1Y15-3Ys-2eW1-fU1e-dU1IofP16Q1-2u",
      "I2rPc-1I4P1-bQ5g-218X2r-dKtrY1U9Yt-33eQg7-6ntLft-7Pv-1Pa-4P2X27-1Xa-6Pu-2P6-aP1y-aPa-1P7-1",
      "Pl-5Pj-j4T2j-2tM1xU6-4U1M1bU9-7Mh-1sR1S1U2W1-bW2-eR4q5T5U6-8RkzWdf-16W9-6w7X4-1X7-1X2-1L2S",
      "7xX4-fY1-tU3-2Y1-eU4-8Sb0-1s4P2z-5Pd-3P9-7Pa-2P8-3mkX1a-2Xn-9X38-1oE6u-aE13-2J1E50QbX2-lH1",
      "y-3eYk-cTk-cG2f-9IiT7-3rE2d-1E1z-1E2-2E1-2E2-2E4-1Ec-1E1-1E4G1E2-1E1t-1E4-2E8-1E7-1Es-1E4-",
      "1E5-1E1-3E7-1E9eH2-2E82I2-2E1eQi4-fQ5-1Qf-uoXv-6Y6-5xR7-1Rh-2R7-1R2-1R5-5Y1q-xY1-34U19-3Ue",
      "-2Ua-4U2-8wXv-hU1m-5U1-cwY16-kmX7-1X4-1X2-1Xf-1P5h-2Pg-15R23U1-4Ra-4R2-ltT1w-24U1p-5eM4-1M",
      "r-1M2-1M1-2M1-1Ma-1M4-1M1-1M1-6M1-4M1-1M1-1M1-1M3-1M2-1M1-2M1-1M1-1M1-1M1-1M1-1M2-1M1-2M4-",
      "1M7-1M4-1M4-1M1-1Ma-1Mh-5M3-1M5-1Mh-1gM2-7iJ18-4J2s-cLf-2LeP1-1Lf-1LfPm-aKbP2W3KvT1L1K1LbK",
      "1L1K1L2K1L3K1L3K5L8K1L7K1LaM2U1W3L9K1L1K2L2K1LaK4L2K1LaRiW1-1kLqK1L2-dKyL9R1-4K9-7L2-eS6-4",
      "aLxPcQ3L6P1L1yP1Q2LkPcL11P1L5P4Q5PcLhP7Q8L1rP1L1P1L52P1L4P2Q1L1qP2M4P7Q5LoPiR1P15R1P2eL5M1",
      "LgM1L3M1L1M1L1M1L1M1L3M1L6M2L4M1L1M2L4M1LcP2Q2LbP1cL1yPaQ1R2S2U1W2-4Y1X3Pd-3P4R3S2T1U1W2-3",
      "L38Y3-4Y5P2dT4Y1-6Uc-4X1-fPc-4P1k-8Pa-6P14-8Pu-2W2-26ScW1U3Q9R6S1R8S8R1S2RcU1RcS1T3RfSdT5U",
      "1W1T4W2X1T1U1T4Q5RdS6TbW2U6W3U2TaU6Q1T2U8W1X1U3SnTpU2c-cTe-2U4W1Y3U3X2-3U3W4Y2-7U6WjX4Y3W7",
      "X4Y3-1Y1W3X3-8Y2W7X3Y2-4X8Y1-7X7Y2-7W43-1W1j-11Wa-skB2EwyfW7X2-wK379X4Y1-6L66-2Q4g2-eS5rl-",
      "2e7Ef2-15sB2W3t7-5Y38g-17imB2-1ekeB2-1ekeB2-1ekeB2-1ekeB2-1ekeB2-1ekeB2-1ekeB2-1ekeB2-1eke",
      "B2-1ekeB2-1E1-uE2o-3kG6o-1e6mB"])

/-- The mark of each version and its names. -/
def ageNames : List (Char × List String) :=
  [('A', ["1.1", "v11"]),
    ('B', ["2.0", "v20"]),
    ('C', ["2.1", "v21"]),
    ('D', ["3.0", "v30"]),
    ('E', ["3.1", "v31"]),
    ('F', ["3.2", "v32"]),
    ('G', ["4.0", "v40"]),
    ('H', ["4.1", "v41"]),
    ('I', ["5.0", "v50"]),
    ('J', ["5.1", "v51"]),
    ('K', ["5.2", "v52"]),
    ('L', ["6.0", "v60"]),
    ('M', ["6.1", "v61"]),
    ('N', ["6.2", "v62"]),
    ('O', ["6.3", "v63"]),
    ('P', ["7.0", "v70"]),
    ('Q', ["8.0", "v80"]),
    ('R', ["9.0", "v90"]),
    ('S', ["10.0", "v100"]),
    ('T', ["11.0", "v110"]),
    ('U', ["12.0", "v120"]),
    ('V', ["12.1", "v121"]),
    ('W', ["13.0", "v130"]),
    ('X', ["14.0", "v140"]),
    ('Y', ["15.0", "v150"])]

def age? (name : String) : Option Char :=
  (ageNames.find? (·.2.contains name)).map (·.1)

/-- Whether the first mark is that of a version no later than the second one. -/
def isAgeUpTo (mark first : Char) : Bool := first != '-' && first ≤ mark

def isOfAge (mark c : Char) : Bool := (ageMap.get? c).any (isAgeUpTo mark)

end BinaryCoverage.Unicode
