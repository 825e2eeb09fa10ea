import BinaryCoverage.Unicode.CodeSet

/-!
# Breaks

Three properties say where text may be broken between graphemes, words and sentences.  Each gives
every code point one value, here marked by one letter; a hyphen marks those that have no value of
their own.  This file defines:

* `Break` — the three properties;
* `Break.map` — the mark of every code point;
* `Break.mark?` — the mark of a value by any of its names, which are written in lower case and
  without blanks, hyphens and underscores.
-/

namespace BinaryCoverage.Unicode

inductive Break where
  | grapheme
  | word
  | sentence
  deriving DecidableEq, Repr

namespace Break

def graphemeMap : CodeMap := .ofText
  (String.join
    ["0BaE1B2A1Bi-2nBx-dB1-giC34-7nC7-7bC19-1C1-1C2-1C2-1C1-1kH6-aCb-1B1-1aCl-gC1-2tC7H1-1C6-2C2",
      "-1C4-xH1-1C1-uCr-2jCb-1mC9-9C1-oC4-1C9-1C3-1C5-17C3-1gH2-6C8-16CoH1CwJ1-1iC1J1C1-1J3C8J4C1",
      "J2-1C7-aC2-tC1J2-1kC1-1C1J2C4-2J2-2J2C1-9C1-aC2-qC1-2C2J1-1kC1-1J3C2-4C2-2C3-3C1-uC2-3C1-b",
      "C2J1-1kC1-1J3C5-1C2J1-1J2C1-kC2-mC6-1C1J2-1kC1-1C2J1C4-2J2-2J2C1-7C3-aC2-uC1-1nC1J1C1J2-3J",
      "3-1J3C1-9C1-14C1J3C1-1jC1-1C3J4-1C3-1C4-7C2-bC2-tC1J2-1kC1-1J1C1J2C1J2-1C1J2-1J2C2-7C2-bC2",
      "-fJ1-cC2J2-1jC2-1C1J2C4-1J3-1J3C1H1-8C1-aC2-tC1J2-1yC1-4C1J2C3-1C1-1J7C1-iJ2-1pC1-1J1C7-cC",
      "8-2qC1-1J1C9-bC7-21C2-rC1-1C1-1C1-4J2-1dCeJ1C5-1C2-5Cb-1C10-9C1-2uC4J1C6-1C2J2C2-nJ2C2-4C3",
      "-gC4-dC1-1J1C2-6C1-fC1-2qD2oL20K2g-9pC3-qaC3J1-sC2J1-tC2-uC2-1sC2J1C7J8C1J2Cb-9C1-19C3B1C1",
      "-39C2-yC1-3aC3J4C2J3-4J2C1J6C3-63C2J2C1-1lJ1C1J1C7-1C1-1C1-2C8J6Ca-2C1-1cCv-1dC4J1-1bC7J1C",
      "1J5C1J2-12C9-cC2J1-uJ1C4J2C2J1C3-1kC1J1C2J3C1J1C3J2-1cJ8C8J2C2-48C3-1CdJ1C7-4C1-6C1-2J1C2-",
      "5iC1s-ejB1C1M1B2-oB7-1dBg-2oCx-2daC3-3xC1-2oCw-feC6-2xC2-n9wC4-1Ca-wC2-28C2-7kC1-3C1-4C1-n",
      "J2C2J1-4C1-2bJ2-1eJgC2-qCi-dC1-12C8-pCbJ2-cDt-3C3J1-1bC1J2C4J2C2J3-10C1-1vC6J2C2J2C2-cC1-8",
      "C1J1-1aC1-1fC1-1C3-2C2-5C2-1C1-15J1C2J2-5J1C1-6kJ2C1J2C1J2-1J1C1-iF1GrF1GrF1GrF1GrF1GrF1Gr",
      "F1GrF1GrF1GrF1GrF1GrF1GrF1GrF1GrF1GrF1GrF1GrF1GrF1GrF1GrF1GrF1GrF1GrF1GrF1GrF1GrF1GrF1GrF1",
      "GrF1GrF1GrF1GrF1GrF1GrF1GrF1GrF1GrF1GrF1GrF1GrF1GrF1GrF1GrF1GrF1GrF1GrF1GrF1GrF1GrF1GrF1Gr",
      "F1GrF1GrF1GrF1GrF1GrF1GrF1GrF1GrF1GrF1GrF1GrF1GrF1GrF1GrF1GrF1GrF1GrF1GrF1GrF1GrF1GrF1GrF1",
      "GrF1GrF1GrF1GrF1GrF1GrF1GrF1GrF1GrF1GrF1GrF1GrF1GrF1GrF1GrF1GrF1GrF1GrF1GrF1GrF1GrF1GrF1Gr",
      "F1GrF1GrF1GrF1GrF1GrF1GrF1GrF1GrF1GrF1GrF1GrF1GrF1GrF1GrF1GrF1GrF1GrF1GrF1GrF1GrF1GrF1GrF1",
      "GrF1GrF1GrF1GrF1GrF1GrF1GrF1GrF1GrF1GrF1GrF1GrF1GrF1GrF1GrF1GrF1GrF1GrF1GrF1GrF1GrF1GrF1Gr",
      "F1GrF1GrF1GrF1GrF1GrF1GrF1GrF1GrF1GrF1GrF1GrF1GrF1GrF1GrF1GrF1GrF1GrF1GrF1GrF1GrF1GrF1GrF1",
      "GrF1GrF1GrF1GrF1GrF1GrF1GrF1GrF1GrF1GrF1GrF1GrF1GrF1GrF1GrF1GrF1GrF1GrF1GrF1GrF1GrF1GrF1Gr",
      "F1GrF1GrF1GrF1GrF1GrF1GrF1GrF1GrF1GrF1GrF1GrF1GrF1GrF1GrF1GrF1GrF1GrF1GrF1GrF1GrF1GrF1GrF1",
      "GrF1GrF1GrF1GrF1GrF1GrF1GrF1GrF1GrF1GrF1GrF1GrF1GrF1GrF1GrF1GrF1GrF1GrF1GrF1GrF1GrF1GrF1Gr",
      "F1GrF1GrF1GrF1GrF1GrF1GrF1GrF1GrF1GrF1GrF1GrF1GrF1GrF1GrF1GrF1GrF1GrF1GrF1GrF1GrF1GrF1GrF1",
      "GrF1GrF1GrF1GrF1GrF1GrF1GrF1GrF1GrF1GrF1GrF1GrF1GrF1GrF1GrF1GrF1GrF1GrF1GrF1GrF1GrF1GrF1Gr",
      "F1GrF1GrF1GrF1GrF1GrF1GrF1GrF1GrF1GrF1GrF1GrF1GrF1GrF1GrF1GrF1GrF1GrF1GrF1GrF1GrF1GrF1GrF1",
      "GrF1GrF1GrF1GrF1GrF1GrF1GrF1GrF1GrF1GrF1GrF1GrF1GrF1GrF1GrF1GrF1GrF1GrF1GrF1GrF1GrF1GrF1Gr",
      "F1GrF1GrF1GrF1GrF1GrF1GrF1GrF1GrF1GrF1GrF1GrF1GrF1GrF1GrF1GrF1GrF1GrF1GrF1GrF1GrF1GrF1GrF1",
      "GrF1GrF1GrF1GrF1GrF1GrF1GrF1GrF1GrF1GrF1GrF1GrF1GrF1GrF1GrF1GrF1GrF1GrF1GrF1GrF1GrF1GrF1Gr",
      "F1GrF1GrF1GrF1GrF1GrF1GrF1GrF1GrF1GrF1GrF1GrF1GrF1GrF1GrF1GrF1GrF1GrF1GrF1GrF1GrF1GrF1GrF1",
      "GrF1GrF1GrF1GrF1GrF1GrF1GrF1GrF1GrF1GrF1Gr-cLn-4K1d-6xuC1-khCg-gCg-5rB1-4eC2-28Bc-e9C1-6aC",
      "1-45C5-1aeC3-1C2-5C4-14C3-4C1-4lC2-fxC4-arC2-28C3-1yCb-1dC4-3eJ1C1J1-1hCf-15C1-2C2-aC3J1-1",
      "9J3C4J2C2-2H1-4C1-aH1-1eC3-10C5J1C8-gJ2-18C1-cC2J1-1cJ3C9J2-1H2-5C4-1J1C1-2kJ3C3J2C1J1C2-6",
      "C1-2C1-4dC1J3C8-lC2J2-1jC2-1C1J1C1J4-2J2-2J3-9C1-aJ2-2C7-3C5-5cJ3C8J2C3J1C1-nC1-29C1J2C6J1",
      "C1J2C1J1C2J1C2-6jC1J2C4-2J4C2J1C2-rC2-2aJ3C8J2C1J1C2-2yC1J1C1J2C6J1C1-2tC3-2C4J1C5-74J3C9J",
      "1C2-6tC1J5-1J2-2C2J1C1H1J1H1J1C1-3xJ3C4-2C2J4C1-3J1-sCa-14C6J1H1C4-8C1-9C6J2C3-14H6CdJ1C2-",
      "b9J1C7-1C6J1C1-2aCm-1J1C7J1C2J1C2-3eC6-3C1-1C2-1C7H1C1-1uJ5-1C2-1J2C1J1C1-9nC2J2-9C2H1J1-1",
      "cJ2C5-3J2C1J1C1-44tBgC1-6Cf-asaC5-1nC7-t4C1-1J1j-7C4-29C1-bJ2-f57C2-1B4-3mkC1a-2Cn-f2C1J1C",
      "3-3J1C5B8C8-2C7-uC4-44C3-1izC1j-4C1e-8C1-eC1-mC5-1Cf-11sC7-1Ch-2C7-1C2-1C5-2sC1-4gC7-afC1-",
      "1pC4-e4C4-rkC7-31C7-1p7Iq-e3C5-gx6oBwC2oB3kC6oB2s0-"])

def wordMap : CodeMap := .ofText
  (String.join
    ["0-aI1M2B1-iQ1-1C1-4P1-4K1-1L1-1NaJ1K1-5Aq-4E1-1Aq-aM1-10A1-2F1-7A1-1J1-2A1-5An-1Av-1Adc-6A",
      "yD34A5-1A2-2A4K1A1-6A1J1A3-1A1-1Ak-1A2b-1A3v-1D7A4m-1A12-2A4-1A1J1A15K1A1-6D19-1D1-1D2-1D2",
      "-1D1-8Gr-4G4A1J1-bF6-6K2-2Db-1F1-3A17DlNa-1N1K1-1A2D1A2r-1A1D7F1-1D6A2D2-1D4A2NaA3-2A1-fF1",
      "A1D1AuDr-2A2hDbA1-eNaAxD9A2-2K1-1A1-2D1-2AmD4A1D9A1D3A1D5-iApD3-4Ab-5Ao-1A6-1F2-6D8A16DoF1",
      "DxA1iD3A1DiA1D7AaD2-2Na-1AgD3-1A8-2A2-2Am-1A7-1A1-3A4-2D1A1D7-2D2-2D3A1-8D1-4A2-1A3D2-2NaA",
      "2-aA1-1D1-2D3-1A6-4A2-2Am-1A7-1A2-1A2-1A2-2D1-1D5-4D2-2D3-3D1-7A4-1A1-7NaD2A3D1-bD3-1A9-1A",
      "3-1Am-1A7-1A2-1A5-2D1A1D8-1D3-1D3-2A1-fA2D2-2Na-9A1D6-1D3-1A8-2A2-2Am-1A7-1A2-1A5-2D1A1D7-",
      "2D2-2D3-7D3-4A2-1A3D2-2Na-1A1-gD1A1-1A6-3A3-1A4-3A2-1A1-1A2-3A2-3A3-3Ac-4D5-3D3-1D4-2A1-6D",
      "1-eNa-gD5A8-1A3-1An-1Ag-2D1A1D7-1D3-1D4-7D2-1A3-2A1-2A2D2-2Na-gA1D3-1A8-1A3-1An-1Aa-1A5-2D",
      "1A1D7-1D3-1D4-7D2-6A2-1A2D2-2Na-1A2D1-cD4A9-1A3-1A15D2A1D7-1D3-1D4A1-5A3D1-7A3D2-2Na-aA6-1",
      "D3-1Ai-3Ao-1A9-1A1-2A7-3D1-4D6-1D1-1D8-6Na-2D2-1pD1-2D7-cD8-1Na-2fD1-2D9-bD7-1Na-12A1-nD2-",
      "6Na-bD1-1D1-1D1-4D2A8-1A10-4Dk-1D2A5Db-1D10-9D1-2sDk-1Na-cD4-4D3-1D3-2D7-3D4-dDc-1D1NaD4-2",
      "A12-1A1-5A1-2A17-1A99-1A4-2A7-1A1-1A4-2A15-1A4-2Ax-1A4-2A7-1A1-1A4-2Af-1A1l-1A4-2A1v-2D3-w",
      "Ag-gA2e-2A6-3Ah8-2AhQ1Aq-5A23-3Ab-7AiD4-9AjD3-bAiD2-cAd-1A3-1D2-1sDw-9D1-2Na-xD3F1D1Na-6A2",
      "h-7A5D2AyD1A1-5A1y-aAv-1Dc-4Dc-aNa-3kNa-12AnD5-1lDa-1Dt-2D1Na-6Na-mDv-1dD5A1bDhA8-3Na-hD9-",
      "cD3AuDdA2NaA18De-cA10Dk-8Na-3A3NaA10-2A9-7A17-2A3-gD3-1DlA4D1A6D1A2D3A1-5A5cD1sA7q-2A6-2A1",
      "2-2A6-2A8-1A1-1A1-1A1-1Av-2A1h-1A7-1A1-3A3-1A7-3A4-2A6-4Ad-5A3-1A7-3Q7-1Q3-1D1R1F2-8L2-aL1",
      "-2J1M2F5E1-fE2-3K1-fE1-aQ1F5-1Fa-1A1-dA1-gAd-1fDx-hA1-4A1-2Aa-1A1-3A5-6A1-1A1-1A1-1A4-1Ab-",
      "2A4-5A5-4A1-hA15-mlA1g-1eeA6d-6A4D3A2-cA12-1A1-5A1-2A1k-7A1-fD1An-9A7-1A7-1A7-1A7-1A7-1A7-",
      "1A7-1A7-1Dw-1bA1-cwQ1-4A1-10D6-1H5-5A2-2kD2H2-3H2j-1H4-5A17-1A2m-hAw-1cHg-5sH1b-1H2g-lgoAw",
      "d-1vA1a-2A7h-3AgNaA2-kA1bD4-1Da-1AvD2A28D2-mA5f-5A2-1A1-1A5-oAgD1A3D1A4D1AnD5-4D1-jA1g-cD2",
      "A1eDi-aNa-6DiA6-3A1-1A2D1NaAsD8-2AnDd-cAt-3D4A1bDe-eA1Na-bD1-aNa-6A15De-9A3D1A8D2-2Na-xD3-",
      "1eD1-1D3-2D2-5D2-1D1-uAbD5-2A3D2-aA6-2A6-2A6-9A7-1A7-1A1m-6A37D8-1D2-2Na-6A8mc-cAn-4A1d-6x",
      "0A7-cA5-5G1D1Ga-1Gd-1G5-1G1-1G2-1G2-1GaA2q-xAa3-iA1s-2A1i-14Ac-4DgK1-2J1K1-bDg-3E2-oE3K1-1",
      "L1-1K1J1-qA5-1A3r-2F1-7L1-4K1-1L1-1NaJ1K1-5Aq-4E1-1Aq-bH1kD2Av-3A6-2A6-2A6-2A3-sF3-4Ac-1Aq",
      "-1Aj-1A2-1Af-2Ae-yA3f-1xA1h-3sD1-3mAt-3A1d-fD1-vAw-dAu-5A12D5-5Au-2A10-4A8-1A5-16A4e-2Na-6",
      "A10-4A10-4A14-8A1g-cAb-1Af-1A7-1A2-1Ab-1Af-1A7-1A2-1vA8n-9Am-aA8-oA6-1A16-1A9-1xA6-2A1-1A1",
      "8-1A2-3A1-2An-aAn-9Av-1tAj-1A2-aAm-aAq-1yA1k-6A2-1sA1D3-1D2-5D4A4-1A3-1At-2D3-4D1-wAt-3At-",
      "zA8-1AsD2-pA1i-aAm-aAj-dAi-32A21-1jA1f-dA1f-dA10D4-8Na-92A16-1D2-3A2-23D3At-aA1-8AmDb-vAiD",
      "4-16Al-rAn-9D3A1hDf-vNaD1A2D2A1-9D4A19Db-2F1-4D1-aF1-2Ap-7Na-6D3A10De-1Na-4A1D2A1-8AzD1-2A",
      "1-9D3A1cDeA4-4D4-1D2NaA1-1A1-zAi-1ApDc-6D1A2D1-1qA7-1A1-1A4-1Af-1Aa-7A1bDc-5Na-6D4-1A8-2A2",
      "-2Am-1A7-1A2-1A5-1D2A1D7-2D2-2D3-2A1-6D1-5A5D2-2D7-3D5-3vA1hDiA4-5Na-4D1A3-uA1cDkA2-1A1-8N",
      "a-4mA1bD7-2D9-nA4D2-yA1cDh-3A1-bNa-12A17DdA1-7Na-2bDf-4Na-5iA18Df-2tA1sNa-lA8-2A1-2A8-1A2-",
      "1AoD6-1D2-2D4A1D1A1D2-cNa-1yA8-2A13D7-2D7A1-1A1D1-rA1DaA14D7A1D4-8D1-8A1DbA1aDg-3A1-iA21-7",
      "bA9-1A11D8-1D8A1-fNa-oAu-2Dm-1De-21A7-1A2-1A12D6-3D1-1D2-1D7A1D1-8Na-6A6-1A2-1AwD5-1D2-1D5",
      "A1-7Na-8mAjD4-9D2A1D1Ad-1AyD7-3D5-dNa-2eA1-27Apm-2uA33-hA5g-218A2p-fAtsFgD1A6Df-33eAg7-6nt",
      "Aft-7Av-1Na-6A27-1Na-6Au-2D5-bA1cD7-9A4-cNa-9Al-5Aj-j4A1s-3kA23-4D1A1D1j-7D4Ad-1sA2-1A1D1-",
      "bD2-cn2H4-1H7-1H2-1H1-7zH3-1eH1-eH4-23cA2z-5Ad-3A9-7Aa-3D2-1F4-3mkD1a-2Dn-f2D5-3D6F8D8-2D7",
      "-uD4-44D3-cbA2d-1A1z-1A2-2A1-2A2-2A4-1Ac-1A1-1A7-1A1t-1A4-2A8-1A7-1As-1A4-1A5-1A1-3A7-1A9g",
      "-2Ap-1Ap-1Av-1Ap-1Av-1Ap-1Av-1Ap-1Av-1Ap-1A8-2N1e-e8D1j-4D1e-8D1-eD1-mD5-1Df-uoAv-6A6-5xD7",
      "-1Dh-2D7-1D2-1D5-5A1q-xD1-34A19-3D7A7-2Na-4A1-8xAuD1-hA18D4Na-d2AsD4Na-kmA7-1A4-1A2-1Af-1A",
      "5h-bD7-15A1wD7A1-4Na-x2A4-1Ar-1A2-1A1-2A1-1Aa-1A4-1A1-1A1-6A1-4A1-1A1-1A1-1A3-1A2-1A1-2A1-",
      "1A1-1A1-1A1-1A1-1A2-1A1-2A4-1A7-1A4-1A4-1A1-1Aa-1Ah-5A3-1A5-1Ah-hgAq-6Aq-6Aq-2kOq-e3D5-1kg",
      "Na-gvlzF1-uD2o-3kD6o-"])

def sentenceMap : CodeMap := .ofText
  (String.join
    ["0-9M1F1M2B1-iM1K1C1-4C3-2J2A1-1HaJ1-4K1-1NqC1-1C1-3GqC1-1C1-7L1-qM1-9G1C1-1E1-7G1-4G1C1-4N",
      "n-1N7Go-1G8N1G1N1G1N1G1N1G1N1G1N1G1N1G1N1G1N1G1N1G1N1G1N1G1N1G1N1G1N1G1N1G1N1G1N1G1N1G1N1G",
      "1N1G1N1G1N1G1N1G1N1G1N1G1N1G1N1G2N1G1N1G1N1G1N1G1N1G1N1G1N1G1N1G2N1G1N1G1N1G1N1G1N1G1N1G1N",
      "1G1N1G1N1G1N1G1N1G1N1G1N1G1N1G1N1G1N1G1N1G1N1G1N1G1N1G1N1G1N1G1N1G1N2G1N1G1N1G3N2G1N1G1N2G",
      "1N3G2N4G1N2G1N3G3N2G1N2G1N1G1N1G1N2G1N1G2N1G1N2G1N3G1N1G1N2G2I1N1G3I4N2G1N2G1N2G1N1G1N1G1N",
      "1G1N1G1N1G1N1G1N1G1N1G2N1G1N1G1N1G1N1G1N1G1N1G1N1G1N1G1N1G2N2G1N1G1N3G1N1G1N1G1N1G1N1G1N1G",
      "1N1G1N1G1N1G1N1G1N1G1N1G1N1G1N1G1N1G1N1G1N1G1N1G1N1G1N1G1N1G1N1G1N1G1N1G1N1G1N1G1N1G1N1G1N",
      "1G1N1G7N2G1N2G2N1G1N4G1N1G1N1G1N1G1N1G1xI1G10I7G2-4Ic-eG5-7I1-1I1-hD34N1G1N1G1I1-1N1G1-2G4",
      "-1N1-6N1-1N3-1N1-1N2G1Nh-1N9GzN1G2N3G3N1G1N1G1N1G1N1G1N1G1N1G1N1G1N1G1N1G1N1G1N1G1N1G5N1G1",
      "-1N1G1N2G2N1fG1cN1G1N1G1N1G1N1G1N1G1N1G1N1G1N1G1N1G1N1G1N1G1N1G1N1G1N1G1N1G1N1G1N1G1-1D7N1",
      "G1N1G1N1G1N1G1N1G1N1G1N1G1N1G1N1G1N1G1N1G1N1G1N1G1N1G1N1G1N1G1N1G1N1G1N1G1N1G1N1G1N1G1N1G1",
      "N1G1N1G1N1G1N1G1N2G1N1G1N1G1N1G1N1G1N1G1N1G2N1G1N1G1N1G1N1G1N1G1N1G1N1G1N1G1N1G1N1G1N1G1N1",
      "G1N1G1N1G1N1G1N1G1N1G1N1G1N1G1N1G1N1G1N1G1N1G1N1G1N1G1N1G1N1G1N1G1N1G1N1G1N1G1N1G1N1G1N1G1",
      "N1G1N1G1N1G1N1G1N1G1N1G1N1G1N1G1N1G1N1G1N1G1N1G1N1G1N1G1-1N12-2I1-3J1-2G15K1-7D19-1D1-1D2-",
      "1D2-1D1-8Ir-4I5-cE6-6J2-2Db-1E1K3I17DlHa-1H2-1I2D1I2rK1I1D7E1-1D6I2D2-1D4I2HaI3-2I1K3-cE1I",
      "1D1IuDr-2I2hDbI1-eHaIxD9I2-2J1K1I1-2D1-2ImD4I1D9I1D3I1D5-9K1-1K1-3K2-1IpD3-4Ib-5Io-1I6-1E2",
      "-6D8I16DoE1DxI1iD3I1DiI1D7IaD2K2Ha-1IgD3-1I8-2I2-2Im-1I7-1I1-3I4-2D1I1D7-2D2-2D3I1-8D1-4I2",
      "-1I3D2-2HaI2-aI1-1D1-2D3-1I6-4I2-2Im-1I7-1I2-1I2-1I2-2D1-1D5-4D2-2D3-3D1-7I4-1I1-7HaD2I3D1",
      "-bD3-1I9-1I3-1Im-1I7-1I2-1I5-2D1I1D8-1D3-1D3-2I1-fI2D2-2Ha-9I1D6-1D3-1I8-2I2-2Im-1I7-1I2-1",
      "I5-2D1I1D7-2D2-2D3-7D3-4I2-1I3D2-2Ha-1I1-gD1I1-1I6-3I3-1I4-3I2-1I1-1I2-3I2-3I3-3Ic-4D5-3D3",
      "-1D4-2I1-6D1-eHa-gD5I8-1I3-1In-1Ig-2D1I1D7-1D3-1D4-7D2-1I3-2I1-2I2D2-2Ha-gI1D3-1I8-1I3-1In",
      "-1Ia-1I5-2D1I1D7-1D3-1D4-7D2-6I2-1I2D2-2Ha-1I2D1-cD4I9-1I3-1I15D2I1D7-1D3-1D4I1-5I3D1-7I3D",
      "2-2Ha-aI6-1D3-1Ii-3Io-1I9-1I1-2I7-3D1-4D6-1D1-1D8-6Ha-2D2-dI1cD1I2D7-5I7D8-1Ha-13I2-1I1-1I",
      "5-1Io-1I1-1IaD1I2D9I1-2I5-1I1-1D7-1Ha-2I4-wI1-nD2-6Ha-bD1-1D1-1D1C4D2I8-1I10-4Dk-1D2I5Db-1",
      "D10-9D1-1lI17DkI1HaK2-4I6D4I4D3I1D3I2D7I3D4IdDcI1D1HaD4-2N12-1N1-5N1-2I17-1G1I98-1I4-2I7-1",
      "I1-1I4-2I15-1I4-2Ix-1I4-2I7-1I1-1I4-2If-1I1l-1I4-2I1v-2D3-2K1-4K2-nIg-gN2e-2G6-3Ih8-1K1IhM",
      "1IqC2-3I23-3Ib-7IiD4-9IjD3K2-9IiD2-cId-1I3-1D2-cI1gDw-3I1-4I1D1-2Ha-oJ1K1-4J1K1-1D3E1D1Ha-",
      "6I2h-7I5D2IyD1I1-5I1y-aIv-1Dc-4Dc-8K2HaIu-2I5-bI18-4Iq-6Ha-12InD5-4I1hDa-1Dt-2D1Ha-6Ha-dI1",
      "K4-4Dv-1dD5I1bDhI8-3HaK2-2K2-bD9-9K2-1D3IuDdI2HaI18De-cI10Dk-3K2-3Ha-3I3HaI10K2G9-7I17-2I3",
      "-gD3-1DlI4D1I6D1I2D3I1-5G5cD1sN1G1N1G1N1G1N1G1N1G1N1G1N1G1N1G1N1G1N1G1N1G1N1G1N1G1N1G1N1G1",
      "N1G1N1G1N1G1N1G1N1G1N1G1N1G1N1G1N1G1N1G1N1G1N1G1N1G1N1G1N1G1N1G1N1G1N1G1N1G1N1G1N1G1N1G1N1",
      "G1N1G1N1G1N1G1N1G1N1G1N1G1N1G1N1G1N1G1N1G1N1G1N1G1N1G1N1G1N1G1N1G1N1G1N1G1N1G1N1G1N1G1N1G1",
      "N1G1N1G1N1G1N1G1N1G1N1G1N1G1N1G1N1G1N1G1N1G1N1G1N1G1N1G1N1G9N1G1N1G1N1G1N1G1N1G1N1G1N1G1N1",
      "G1N1G1N1G1N1G1N1G1N1G1N1G1N1G1N1G1N1G1N1G1N1G1N1G1N1G1N1G1N1G1N1G1N1G1N1G1N1G1N1G1N1G1N1G1",
      "N1G1N1G1N1G1N1G1N1G1N1G1N1G1N1G1N1G1N1G1N1G1N1G1N1G1N1G1N1G1N1G1N1G1N1G1N1G9N8G6-2N6-2G8N8",
      "G8N8G6-2N6-2G8-1N1-1N1-1N1-1N1G8N8Ge-2G8N8G8N8G8N8G5-1G2N5-1G1-3G3-1G2N5-3G4-2G2N4-4G8N5-5",
      "G3-1G2N5-3MbE1D2E2-3J2-3C8-4A1-3L2E5M1-9C2-1K2-7C2K3-lM1E5-1Ea-1G1-bC2G1-dC2-1Gd-1fDx-hN1-",
      "4N1-2G1N3G2N3G1-1N1-3N5-6N1-1N1-1N1-1N4-1G1N4G1I4G1-2G2N2-5N1G4-4G1-hNgGgI3N1G1I4-anC4-tC2",
      "-azNqGq-hdC6-7Ce-27C2-vCa-b7Cm-1rC4-wC2-eaN1cG1cN1G1N3G2N1G1N1G1N1G1N4G1N1G2N1G8N3G1N1G1N1",
      "G1N1G1N1G1N1G1N1G1N1G1N1G1N1G1N1G1N1G1N1G1N1G1N1G1N1G1N1G1N1G1N1G1N1G1N1G1N1G1N1G1N1G1N1G1",
      "N1G1N1G1N1G1N1G1N1G1N1G1N1G1N1G1N1G1N1G1N1G1N1G1N1G1N1G1N1G1N1G1N1G1N1G1N1G1N1G1N1G1N1G1N1",
      "G1N1G1N1G2-6N1G1N1G1D3N1G1-cG12-1G1-5G1-2I1k-7I1-fD1In-9I7-1I7-1I7-1I7-1I7-1I7-1I7-1I7-1Dw",
      "Ce-eC2-2Ca-4K1I1-cK1-5C1-gK2C8-bnM1J1K1-2I3Ca-2C8-1C3-1I9D6-1I5-2I5-4I2e-2D2-2I3-1I2i-1I4-",
      "5I17-1I2m-hIw-1cIg-e8I534-1sIh3h-1vI1a-1K1I7h-1K2IgHaI2-kN1G1N1G1N1G1N1G1N1G1N1G1N1G1N1G1N",
      "1G1N1G1N1G1N1G1N1G1N1G1N1G1N1G1N1G1N1G1N1G1N1G1N1G1N1G1N1G1I1D4-1Da-1I1N1G1N1G1N1G1N1G1N1G",
      "1N1G1N1G1N1G1N1G1N1G1N1G1N1G1N1G1N1G3D2I28D2-1K1-3K1-vI9-2N1G1N1G1N1G1N1G1N1G1N1G1N1G3N1G1",
      "N1G1N1G1N1G1N1G1N1G1N1G1N1G1N1G1N1G1N1G1N1G1N1G1N1G1N1G1N1G1N1G1N1G1N1G1N1G1N1G1N1G1N1G1N1",
      "G1N1G1N1G1N1G1N1G1N1G1N1G1N1GaN1G1N1G1N2G1N1G1N1G1N1G1N1G1I1-2N1G1N1G1I1N1G1N1G3N1G1N1G1N1",
      "G1N1G1N1G1N1G1N1G1N1G1N1G1N1G1N5G1N5G1N1G1N1G1N1G1N1G1N1G1N1G1N1G1N4G1N1G1-5N1G1-1G1-1G1N1",
      "G1N1G1-oG3N1G1I1G3I7D1I3D1I4D1InD5-4D1-jI1g-2K2-8D2I1eDi-8K2Ha-6DiI6-3I1-1I2D1HaIsD8-1K1In",
      "Dd-cIt-3D4I1bDe-7K2-5I1Ha-6I5D1IaHaI5-1I15De-9I3D1I8D2-2Ha-3K3In-3I1D3I1eD1I1D3I2D2I5D2I1D",
      "1I1-oI3-2IbD5K2I3D2-aI6-2I6-2I6-9I7-1I7-1G17-1Ge-6G28IzD8K1D2-2Ha-6I8mc-cIn-4I1d-6isIa6-2I",
      "2y-12G7-cG5-5I1D1Ia-1Id-1I5-1I1-1I2-1I2-1I30-xIa3C2-gI1s-2I1i-14Ic-4DgJ2-1J1-3C2-7Dg-1J2-2",
      "Cg-2C2-7J2A1-2J1K2J1C6-4J1-cI5-1I3r-2E1-1K1-6C2-2J2A1-1HaJ1-4K1-1NqC1-1C1-3GqC1-1C1-1C2K1C",
      "2J1-1I1kD2Iv-3I6-2I6-2I6-2I3-sE3-4Ic-1Iq-1Ij-1I2-1If-2Ie-yI3f-1xI1h-3sD1-3mIt-3I1d-fD1-vIw",
      "-dIu-5I12D5-5Iu-2I10-4I8-1I5-16N14G14I26-2Ha-6N10-4G10-4I14-8I1g-cNb-1Nf-1N7-1N2-1Gb-1Gf-1",
      "G7-1G2-1vI8n-9Im-aI8-oG1I2G3-1G16-1G9-1xI6-2I1-1I18-1I2-3I1-2In-aIn-9Iv-1tIj-1I2-aIm-aIq-1",
      "yI1k-6I2-1sI1D3-1D2-5D4I4-1I3-1It-2D3-4D1-mK2-8It-3It-zI8-1IsD2-pI1i-aIm-aIj-dIi-32I21-1jN",
      "1f-dG1f-dI10D4-8Ha-92I16-1D2-3I2-23D3It-aI1-8ImDb-4K5-mIiD4K4-12Il-rIn-9D3I1hDfK2-tHaD1I2D",
      "2I1-9D4I19Db-2E1K4D1-aE1-2Ip-7Ha-6D3I10De-1Ha-1K3I1D2I1-8IzD1-2I1-9D3I1cDeI4K2-2D4K1D2HaI1",
      "-1I1-1K2-wIi-1IpDcK2-1K2-1D1I2D1-1qI7-1I1-1I4-1If-1IaK1-6I1bDc-5Ha-6D4-1I8-2I2-2Im-1I7-1I2",
      "-1I5-1D2I1D7-2D2-2D3-2I1-6D1-5I5D2-2D7-3D5-3vI1hDiI4K2-3Ha-4D1I3-uI1cDkI2-1I1-8Ha-4mI1bD7-",
      "2D9-1K2-5KfI4D2-yI1cDhK2-1I1-bHa-12I17DdI1-7Ha-1iIr-2Df-4Ha-2K3-1I7-55I18Df-2tNwGwHa-lI8-2",
      "I1-2I8-1I2-1IoD6-1D2-2D4I1D1I1D2K1-1K1-9Ha-1yI8-2I13D7-2D7I1-1I1D1-rI1DaI14D7I1D4-3K2-3D1-",
      "8I1DbI1aDg-1K2I1-iI21-7bI9-1I11D8-1D8I1K2-dHa-oIu-2Dm-1De-21I7-1I2-1I12D6-3D1-1D2-1D7I1D1-",
      "8Ha-6I6-1I2-1IwD5-1D2-1D5I1-7Ha-8mIjD4K2-7D2I1D1Id-1IyD7-3D5K2-bHa-2eI1-27Ipm-2uI33-hI5g-2",
      "18I2p-fItsEgD1I6Df-33eIg7-6ntIft-7Iv-1Ha-4K2I27-1Ha-6Iu-2D5K1-aI1cD7K2-7I4K1-bHa-9Il-5Ij-j",
      "4NwGw-oK1-2vI23-4D1I1D1j-7D4Id-1sI2-1I1D1-bD2-eI4qg-8Iye-16I9-6w7I4-1I7-1I2-1I83-fI1-tI3-2",
      "I1-eI4-8Ib0-1s4I2z-5Id-3I9-7Ia-3D2K1E4-3mkD1a-2Dn-f2D5-3D6E8D8-2D7-uD4-44D3-cbNqGqNqG7-1Gi",
      "NqGqN1-1N2-2N1-2N2-2N4-1N8G4-1G1-1G7-1GbNqGqN2-1N4-2N8-1N7-1GqN2-1N4-1N5-1N1-3N7-1GqNqGqNq",
      "GqNqGqNqGqNqGqNqGs-2Np-1Gp-1G6Np-1Gp-1G6Np-1Gp-1G6Np-1Gp-1G6Np-1Gp-1G6N1G1-2H1e-e8D1j-4D1e",
      "-8D1-eD1-3K1-iD5-1Df-uoGaI1Gk-6G6-5xD7-1Dh-2D7-1D2-1D5-5G1q-xD1-34I19-3D7I7-2Ha-4I1-8xIuD1",
      "-hI18D4Ha-d2IsD4Ha-kmI7-1I4-1I2-1If-1I5h-bD7-15NyGyD7I1-4Ha-x2I4-1Ir-1I2-1I1-2I1-1Ia-1I4-1",
      "I1-1I1-6I1-4I1-1I1-1I1-1I3-1I2-1I1-2I1-1I1-1I1-1I1-1I1-1I2-1I1-2I4-1I7-1I4-1I4-1I1-1Ia-1Ih",
      "-5I3-1I5-1Ih-hgNq-6Nq-6Nq-z0C3-12vHa-smIwyo-wI37e-6I66-2I4g2-eI5rl-2e7If2-15uI3t7-5I38g-f9",
      "75E1-uD2o-3kD6o-"])

def map : Break → CodeMap
  | .grapheme => graphemeMap
  | .word => wordMap
  | .sentence => sentenceMap

/-- The mark of each value for graphemes and its names. -/
def graphemeNames : List (Char × List String) :=
  [('A', ["cr"]),
    ('B', ["cn", "control"]),
    ('C', ["ex", "extend"]),
    ('D', ["l"]),
    ('E', ["lf"]),
    ('F', ["lv"]),
    ('G', ["lvt"]),
    ('H', ["pp", "prepend"]),
    ('I', ["regionalindicator", "ri"]),
    ('J', ["sm", "spacingmark"]),
    ('K', ["t"]),
    ('L', ["v"]),
    ('M', ["zwj"])]

/-- The mark of each value for words and its names. -/
def wordNames : List (Char × List String) :=
  [('A', ["aletter", "le"]),
    ('B', ["cr"]),
    ('C', ["doublequote", "dq"]),
    ('D', ["extend"]),
    ('E', ["ex", "extendnumlet"]),
    ('F', ["fo", "format"]),
    ('G', ["hebrewletter", "hl"]),
    ('H', ["ka", "katakana"]),
    ('I', ["lf"]),
    ('J', ["midletter", "ml"]),
    ('K', ["midnum", "mn"]),
    ('L', ["mb", "midnumlet"]),
    ('M', ["newline", "nl"]),
    ('N', ["nu", "numeric"]),
    ('O', ["regionalindicator", "ri"]),
    ('P', ["singlequote", "sq"]),
    ('Q', ["wsegspace"]),
    ('R', ["zwj"])]

/-- The mark of each value for sentences and its names. -/
def sentenceNames : List (Char × List String) :=
  [('A', ["at", "aterm"]),
    ('B', ["cr"]),
    ('C', ["cl", "close"]),
    ('D', ["ex", "extend"]),
    ('E', ["fo", "format"]),
    ('F', ["lf"]),
    ('G', ["lo", "lower"]),
    ('H', ["nu", "numeric"]),
    ('I', ["le", "oletter"]),
    ('J', ["sc", "scontinue"]),
    ('K', ["st", "sterm"]),
    ('L', ["se", "sep"]),
    ('M', ["sp"]),
    ('N', ["up", "upper"])]

def names : Break → List (Char × List String)
  | .grapheme => graphemeNames
  | .word => wordNames
  | .sentence => sentenceNames

def mark? (b : Break) (name : String) : Option Char :=
  (b.names.find? (·.2.contains name)).map (·.1)

end Break

end BinaryCoverage.Unicode
